import FormGuard.Text.Names.Forms
import FormGuard.Text.Names.Letters
import FormGuard.Text.Names.OldScripts
import FormGuard.Text.Names.Pictures
import FormGuard.Text.Names.Symbols

/-! Looking up a character by its name. Most names are in rows, further names of the same characters among them; some
end in the code of their character, and those of Korean syllables are put together from the names of their letters. -/
namespace FormGuard.Text

def otherNames : List NameRow := [
  ⟨0x0000,"",["NULL,START OF HEADING,START OF TEXT,END OF TEXT,END OF TRANSMISSION,ENQUIRY,ACKNOWLEDGE,ALERT",
    "BACKSPACE,HORIZONTAL TABULATION,END OF LINE,VERTICAL TABULATION,FORM FEED,CARRIAGE RETURN,LOCKING-SHIFT ONE",
    "LOCKING-SHIFT ZERO,DATA LINK ESCAPE"]⟩,
  ⟨0x0011,"DEVICE CONTROL ",["ONE,TWO,THREE,FOUR"]⟩,
  ⟨0x0015,"",["NEGATIVE ACKNOWLEDGE,SYNCHRONOUS IDLE,END OF TRANSMISSION BLOCK,CANCEL,END OF MEDIUM,SUBSTITUTE",
    "ESCAPE"]⟩,
  ⟨0x001C,"INFORMATION SEPARATOR ",["FOUR,THREE,TWO,ONE"]⟩,
  ⟨0x0020,"SP",[""]⟩,
  ⟨0x007F,"",["DELETE,PADDING CHARACTER,HIGH OCTET PRESET,BREAK PERMITTED HERE,NO BREAK HERE,INDEX,NEXT LINE",
    "START OF SELECTED AREA,END OF SELECTED AREA,HORIZONTAL TABULATION SET",
    "HORIZONTAL TABULATION WITH JUSTIFICATION,VERTICAL TABULATION SET,PARTIAL LINE FORWARD,PARTIAL LINE BACKWARD",
    "REVERSE LINE FEED,SINGLE SHIFT TWO,SINGLE SHIFT THREE,DEVICE CONTROL STRING,PRIVATE USE ONE,PRIVATE USE TWO",
    "SET TRANSMIT STATE,CANCEL CHARACTER,MESSAGE WAITING,START OF PROTECTED AREA,END OF PROTECTED AREA",
    "START OF STRING,SINGLE GRAPHIC CHARACTER INTRODUCER,SINGLE CHARACTER INTRODUCER,CONTROL SEQUENCE INTRODUCER",
    "STRING TERMINATOR,OPERATING SYSTEM COMMAND,PRIVACY MESSAGE,APPLICATION PROGRAM COMMAND,NBSP"]⟩,
  ⟨0x00AD,"SHY",[""]⟩,
  ⟨0x01A2,"LATIN ",["CAPITAL LETTER GHA,SMALL LETTER GHA"]⟩,
  ⟨0x034F,"CGJ",[""]⟩,
  ⟨0x061C,"ALM",[""]⟩,
  ⟨0x0709,"SYRIAC SUBLINEAR COLON SKEWED LEFT",[""]⟩,
  ⟨0x0CDE,"KANNADA LETTER LLLA",[""]⟩,
  ⟨0x0E9D,"LAO LETTER FO FON",[""]⟩,
  ⟨0x0E9F,"LAO LETTER FO FAY",[""]⟩,
  ⟨0x0EA3,"LAO LETTER RO",[""]⟩,
  ⟨0x0EA5,"LAO LETTER LO",[""]⟩,
  ⟨0x0FD0,"TIBETAN MARK BKA- SHOG GI MGO RGYAN",[""]⟩,
  ⟨0x11EC,"HANGUL JONGSEONG ",["YESIEUNG-KIYEOK,YESIEUNG-SSANGKIYEOK,SSANGYESIEUNG,YESIEUNG-KHIEUKH"]⟩,
  ⟨0x180B,"",["FVS1,FVS2,FVS3,MVS,FVS4"]⟩,
  ⟨0x200B,"",["ZWSP,ZWNJ,ZWJ,LRM,RLM"]⟩,
  ⟨0x202A,"",["LRE,RLE,PDF,LRO,RLO,NNBSP"]⟩,
  ⟨0x205F,"",["MMSP,WJ"]⟩,
  ⟨0x2066,"",["LRI,RLI,FSI,PDI"]⟩,
  ⟨0x2118,"WEIERSTRASS ELLIPTIC FUNCTION",[""]⟩,
  ⟨0x2448,"MICR ",["ON US SYMBOL,DASH SYMBOL"]⟩,
  ⟨0x2B7A,"LEFTWARDS TRIANGLE-HEADED ARROW WITH DOUBLE VERTICAL STROKE",[""]⟩,
  ⟨0x2B7C,"RIGHTWARDS TRIANGLE-HEADED ARROW WITH DOUBLE VERTICAL STROKE",[""]⟩,
  ⟨0xA015,"YI SYLLABLE ITERATION MARK",[""]⟩,
  ⟨0xAA6E,"MYANMAR LETTER KHAMTI LLA",[""]⟩,
  ⟨0xFE00,"VS",["1,2,3,4,5,6,7,8,9,10,11,12,13,14,15,16"]⟩,
  ⟨0xFE18,"PRESENTATION FORM FOR VERTICAL RIGHT WHITE LENTICULAR BRACKET",[""]⟩,
  ⟨0xFEFF,"BYTE ORDER MARK",[""]⟩,
  ⟨0x122D4,"CUNEIFORM SIGN NU11 ",["TENU,OVER NU11 BUR OVER BUR"]⟩,
  ⟨0x16E56,"MEDEFAIDRIN CAPITAL LETTER ",["H,NG"]⟩,
  ⟨0x16E76,"MEDEFAIDRIN SMALL LETTER ",["H,NG"]⟩,
  ⟨0x1B001,"HENTAIGANA LETTER E-1",[""]⟩,
  ⟨0x1D0C5,"BYZANTINE MUSICAL SYMBOL FTHORA SKLIRON CHROMA VASIS",[""]⟩,
  ⟨0xE0100,"VS",["17,18,19,20,21,22,23,24,25,26,27,28,29,30,31,32,33,34,35,36,37,38,39,40,41,42,43,44,45,46,47,48",
    "49,50,51,52,53,54,55,56,57,58,59,60,61,62,63,64,65,66,67,68,69,70,71,72,73,74,75,76,77,78,79,80,81,82,83,84",
    "85,86,87,88,89,90,91,92,93,94,95,96,97,98,99"]⟩,
  ⟨0xE0153,"VS1",["00,01,02,03,04,05,06,07,08,09,10,11,12,13,14,15,16,17,18,19,20,21,22,23,24,25,26,27,28,29,30",
    "31,32,33,34,35,36,37,38,39,40,41,42,43,44,45,46,47,48,49,50,51,52,53,54,55,56,57,58,59,60,61,62,63,64,65,66",
    "67,68,69,70,71,72,73,74,75,76,77,78,79,80,81,82,83,84,85,86,87,88,89,90,91,92,93,94,95,96,97,98,99"]⟩,
  ⟨0xE01B7,"VS2",["00,01,02,03,04,05,06,07,08,09,10,11,12,13,14,15,16,17,18,19,20,21,22,23,24,25,26,27,28,29,30",
    "31,32,33,34,35,36,37,38,39,40,41,42,43,44,45,46,47,48,49,50,51,52,53,54,55,56"]⟩,
  ⟨0x0000,"",["NUL,SOH,STX,ETX,EOT,ENQ,ACK,BEL,BS,CHARACTER TABULATION,LINE FEED,LINE TABULATION,FF,CR,SHIFT OUT",
    "SHIFT IN,DLE,DC1,DC2,DC3,DC4,NAK,SYN,ETB,CAN,EOM,SUB,ESC,FILE SEPARATOR,GROUP SEPARATOR,RECORD SEPARATOR",
    "UNIT SEPARATOR"]⟩,
  ⟨0x007F,"",["DEL,PAD,HOP,BPH,NBH,IND,NEL,SSA,ESA,CHARACTER TABULATION SET",
    "CHARACTER TABULATION WITH JUSTIFICATION,LINE TABULATION SET,PARTIAL LINE DOWN,PARTIAL LINE UP,REVERSE INDEX",
    "SINGLE-SHIFT-2,SINGLE-SHIFT-3,DCS,PRIVATE USE-1,PRIVATE USE-2,STS,CCH,MW,START OF GUARDED AREA",
    "END OF GUARDED AREA,SOS,SGC,SCI,CSI,ST,OSC,PM,APC"]⟩,
  ⟨0xFEFF,"ZWNBSP",[""]⟩,
  ⟨0x0009,"",["TAB,NEW LINE,VT"]⟩,
  ⟨0x000E,"S",["O,I"]⟩,
  ⟨0x001C,"",["FS,GS,RS,US"]⟩,
  ⟨0x0088,"",["HTS,HTJ,VTS,PLD,PLU,RI,SS2,SS3"]⟩,
  ⟨0x0091,"PU",["1,2"]⟩,
  ⟨0x0096,"",["SPA,EPA"]⟩,
  ⟨0xFEFF,"BOM",[""]⟩,
  ⟨0x0009,"",["HT,EOL"]⟩,
  ⟨0x000A,"LF",[""]⟩,
  ⟨0x000A,"NL",[""]⟩]

def nameRows : List NameRow :=
  letterNames ++ symbolNames ++ formNames ++ oldScriptNames ++ pictureNames ++ otherNames

def codedNames : List (String × Nat × Nat) := [
  ("CJK COMPATIBILITY IDEOGRAPH-",0xF900,0xFA6D),
  ("CJK COMPATIBILITY IDEOGRAPH-",0xFA70,0xFAD9),
  ("KHITAN SMALL SCRIPT CHARACTER-",0x18B00,0x18CD5),
  ("NUSHU CHARACTER-",0x1B170,0x1B2FB),
  ("CJK COMPATIBILITY IDEOGRAPH-",0x2F800,0x2FA1D)]

def unifiedIdeographs : List (Nat × Nat) := [
  (0x3400,0x4DBF),(0x4E00,0x9FFF),(0x20000,0x2A6DF),(0x2A700,0x2B738),(0x2B740,0x2B81D),(0x2B820,0x2CEA1),
  (0x2CEB0,0x2EBE0),(0x30000,0x3134A)]

def initialLetters : List String :=
  ["G","GG","N","D","DD","R","M","B","BB","S","SS","","J","JJ","C","K","T","P","H"]

def medialLetters : List String :=
  ["A","AE","YA","YAE","EO","E","YEO","YE","O","WA","WAE","OE","YO","U","WEO","WE","WI","YU","EU","YI","I"]

def finalLetters : List String :=
  ["","G","GG","GS","N","NJ","NH","D","L","LG","LM","LB","LS","LT","LP","LH","M","B","BS","S","SS","NG","J","C","K","T",
    "P","H"]

def longestLead? (pieces : List String) (cs : List Char) : Option (Nat × List Char) :=
  pieces.zipIdx.foldl (fun best (piece,i) =>
    match dropLead? piece.toList cs,best with
    | none,best => best
    | some rest,none => some (i,rest)
    | some rest,some (j,left) => if rest.length < left.length then some (i,rest) else some (j,left)) none

def syllable? (cs : List Char) : Option Nat := do
  let (i,cs) ← longestLead? initialLetters cs
  let (m,cs) ← longestLead? medialLetters cs
  let (f,cs) ← longestLead? finalLetters cs
  if cs.isEmpty then some (0xAC00 + (i * 21 + m) * 28 + f) else none

def isCapitalHex (c : Char) : Bool := isAsciiDigit c.toNat || ('A' ≤ c && c ≤ 'F')

def codeWritten? (cs : List Char) : Option Nat :=
  if (cs.length = 4 ∨ cs.length = 5) ∧ cs.all isCapitalHex then
    some (cs.foldl (fun n c => 16 * n + (if isAsciiDigit c.toNat then c.toNat - 48 else c.toNat - 55)) 0)
  else none

def unifiedIdeograph? (cs : List Char) : Option Nat :=
  (codeWritten? cs).filter fun n => unifiedIdeographs.any fun (first,last) => first ≤ n && n ≤ last

def codedName? (name : List Char) : Option Nat :=
  codedNames.findSome? fun (lead,first,last) =>
    match dropLead? lead.toList name with
    | none => none
    | some digits => (codeWritten? digits).filter fun n => digits.head? != some '0' && first ≤ n && n ≤ last

/-- The character of a name. Capitals do not matter, but for the names of syllables and of unified ideographs. -/
def characterNamed? (name : List Char) : Option Nat :=
  match dropLead? "HANGUL SYLLABLE ".toList name,dropLead? "CJK UNIFIED IDEOGRAPH-".toList name with
  | some letters,_ => syllable? letters
  | none,some digits => unifiedIdeograph? digits
  | none,none =>
    let name := name.map Char.toUpper
    match nameRows.findSome? (·.find? name) with
    | some n => some n
    | none => codedName? name

end FormGuard.Text
