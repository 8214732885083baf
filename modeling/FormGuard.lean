import FormGuard.Main
import FormGuard.Proofs.FailedCalls
import FormGuard.Proofs.FieldStates
import FormGuard.Proofs.LateTimers
import FormGuard.Schedule.Script
import FormGuard.Proofs.RecordHistory
import FormGuard.Proofs.GoneRecords
import FormGuard.Proofs.PunctualTimers
import FormGuard.Proofs.FormCheck
import FormGuard.Proofs.SummaryOrder
import FormGuard.Proofs.FieldsApart
import FormGuard.Proofs.DisplayedMessages
import FormGuard.Proofs.NumberBounds
import FormGuard.Proofs.RuleFailures
import FormGuard.Proofs.DisplayGate
import FormGuard.Proofs.RefusedRequests
import FormGuard.Proofs.CustomClauses
import FormGuard.Proofs.WrittenRules
import FormGuard.Proofs.SoundRules
import FormGuard.Proofs.TextLengths
import FormGuard.Proofs.RuleVerdicts
import FormGuard.Proofs.ExemptFields
import FormGuard.Proofs.OwnAttributes
import FormGuard.Proofs.AnswerRenders
import FormGuard.Proofs.AnswerCodes
import FormGuard.Proofs.PunctualClock
import FormGuard.Proofs.SortedQueue
import FormGuard.Proofs.PromptAnswers
import FormGuard.Proofs.DateBounds
import FormGuard.Proofs.LiteralParams
import FormGuard.Proofs.OperatorBounds
import FormGuard.Proofs.LastMessages
import FormGuard.Proofs.MessagePlaces
import FormGuard.Proofs.RegularPatterns
import FormGuard.Proofs.LetterForms
import FormGuard.Proofs.CharacterClasses
import FormGuard.Proofs.AddressTexts
import FormGuard.Proofs.NumberlessValues
import FormGuard.Proofs.DateLimits
import FormGuard.Proofs.SteppingBack
import FormGuard.Proofs.RepeatedCalls
import FormGuard.Proofs.ReplacedRules
import FormGuard.Proofs.HookSubscriptions
import FormGuard.Proofs.CatalogNames
import FormGuard.Proofs.ParsingHistory
import FormGuard.Proofs.RemoteDocuments
import FormGuard.Proofs.ConfigurationFailures
