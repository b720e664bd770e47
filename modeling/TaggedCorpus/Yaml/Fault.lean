import TaggedCorpus.Calendar.Moment
import TaggedCorpus.Number.Literal

/-!
Why a text is no YAML document, or holds a scalar that is not what it is marked as.
-/

namespace TaggedCorpus.Yaml

/-- Why a scalar has no value of its type. -/
inductive ScalarFault
  | number (f : Number.LiteralFault)
  | noDigits
  | tooLarge
  | notTruth (word : Text)
  | notMoment
  | momentOfList
  | calendar (f : CalendarFault)
  deriving DecidableEq

def ScalarFault.message : ScalarFault → String
  | number f => f.message
  | noDigits => "string index out of range"
  | tooLarge => "int too large to convert to float"
  | notTruth word => word.quote
  | notMoment => "'NoneType' object has no attribute 'groupdict'"
  | momentOfList => "expected string or bytes-like object, got 'list'"
  | calendar f => f.message

/-- Why a text cannot be read. An escape may have a number that is past the last code point, or
even past all numbers that are looked up, and looking for the default of a mapping may never come
to an end. -/
inductive Fault
  | malformed
  | scalar (f : ScalarFault)
  | pastLastCharacter
  | pastAllNumbers
  | endless
  deriving DecidableEq

def Fault.message : Fault → String
  | malformed => ""
  | scalar f => f.message
  | pastLastCharacter => "chr() arg not in range(0x110000)"
  | pastAllNumbers => "Python int too large to convert to C int"
  | endless => "maximum recursion depth exceeded"

end TaggedCorpus.Yaml
