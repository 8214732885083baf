/-! Ways in which an evaluation breaks down that are no verdict on a rule or a document: the operation was
asked of something it is not defined on. -/
namespace FormGuard

inductive Fault where
  | badValue
  -- a value of a kind the operation is not defined on
  | badKind
  | overflow
  -- a position past the end of a sequence
  | badPosition
  | absentEntry
  | noTable
  | badPattern
  | tooDeep
  deriving DecidableEq, Repr

def Fault.describe : Fault → String
  | badValue => "the value cannot be used"
  | badKind => "the operation is not defined on a value of this kind"
  | overflow => "the number is out of range"
  | badPosition => "there is nothing at this position"
  | absentEntry => "there is no such entry"
  | noTable => "there is no table here"
  | badPattern => "the pattern cannot be read"
  | tooDeep => "the value is nested too deeply"

end FormGuard
