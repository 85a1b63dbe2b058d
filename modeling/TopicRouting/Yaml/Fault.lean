import TopicRouting.Error

/-! What can be wrong with a YAML document, from its characters up to its values. -/
namespace TopicRouting.Yaml

inductive Fault where
  | unprintable (char : Char)
  | badToken
  | endOfText
  | badOrder
  | unknownAlias
  | namedTwice
  | secondDocument
  | noValue
  | notKey
  | notTruth
  | emptyNumber
  | notTime
  | notText
  | tooLarge
  | noCharacter
  | notWhole (base : Nat) (text : Text)
  | notNumber (text : Text)
  | tooManyDigits (count : Nat)
  | calendar (cause : CalendarError)
  | tooDeep
  deriving DecidableEq, Repr

def Fault.error : Fault → Error
  | unprintable _ => .plain .yamlCharacter []
  | badToken | endOfText => .plain .yamlToken []
  | badOrder => .plain .yamlStructure []
  | unknownAlias | namedTwice | secondDocument => .plain .yamlDocument []
  | noValue | notKey => .plain .yamlValue []
  | notTruth => .noKey
  | emptyNumber => .plain .index []
  | notTime => .noAttribute
  | notText => .wrongType
  | tooLarge => .overflow
  | noCharacter => .value .noCharacter
  | notWhole base text => .value (.notWhole base (.text text))
  | notNumber text => .value (.notNumber text)
  | tooManyDigits count => .value (.tooManyDigits count)
  | calendar cause => .value (.calendar cause)
  | tooDeep => .tooDeep

def Fault.at : Text → Fault
  | [] => endOfText
  | _ => badToken

end TopicRouting.Yaml
