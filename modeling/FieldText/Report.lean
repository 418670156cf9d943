import FieldText.ArgumentType
import FieldText.Text.Quoted

/-!
What the library reports: malformed places of a format string, the notices that go with a recovery
or an ignored option, and the faults that end an operation.  Each is a cause; the wording of all
causes is in this module and nowhere else.
-/

namespace FieldText

/-! ## Malformed format strings -/

/-- The ways in which a format string leaves its grammar. -/
inductive Malformation.Kind where
  | unreadableIndex
  | unreadableLayout
  | unmatchedBrace
  | unterminatedField
  | nestedBrace
  deriving DecidableEq, Repr

/-- The phrase for a kind of malformation. -/
def Malformation.Kind.phrase : Malformation.Kind → Text
  | unreadableIndex => "Invalid replacement field index".toList
  | unreadableLayout => "Invalid replacement field layout".toList
  | unmatchedBrace => "Unmatched closing brace".toList
  | unterminatedField =>
    "Unterminated replacement field; escape with \x7b\x7b for a literal brace".toList
  | nestedBrace => "Nested brace inside replacement field".toList

/-- A malformed place: what is wrong, where, and in which format string.  The offset is an integer,
because a field that is read on its own may be said to stand anywhere. -/
structure Malformation where
  kind : Malformation.Kind
  offset : Int
  source : Text
  deriving DecidableEq, Repr

namespace Malformation

def message (malformation : Malformation) : Text :=
  malformation.kind.phrase ++ " at offset ".toList ++ Numeral.signed malformation.offset ++
    ": ".toList ++ Quoted.write malformation.source

/-- The message of the notice that a recovery leaves. -/
def recoveryMessage (malformation : Malformation) : Text :=
  malformation.kind.phrase ++ " at offset ".toList ++ Numeral.signed malformation.offset ++
    " in ".toList ++ Quoted.write malformation.source ++ "; recovering".toList

end Malformation

/-! ## Notices -/

/-- The families of options that end in a count. -/
inductive CountedOptions where
  | integer
  | float
  | string
  deriving DecidableEq, Repr

def CountedOptions.name : CountedOptions → Text
  | integer => "integer".toList
  | float => "float".toList
  | string => "string".toList

/-- Something worth noting that does not stop the work. -/
inductive Notice where
  | recovered (malformation : Malformation)
  | clampedIndex (field : Text)
  | missingArgument (index : Nat) (argumentCount : Nat) (field : Text)
  | ignoredCount (family : CountedOptions) (options : Text)
  | ignoredBooleanOptions (options : Text)
  | undelimitedRangeOption (indicator : Char)
  | unclosedRangeOption (indicator closer : Char)
  | unexpectedRangeOptions (rest : Text)
  | recursiveReference (type : ArgumentType)
  | registered (type : ArgumentType)
  deriving DecidableEq, Repr

namespace Notice

def isRecovery : Notice → Bool
  | recovered _ => true
  | _ => false

def message (typeName : ArgumentType → Text) : Notice → Text
  | recovered malformation => malformation.recoveryMessage
  | clampedIndex field =>
    "Replacement field index in ".toList ++ Quoted.write field ++ " is too large; clamping".toList
  | missingArgument index argumentCount field =>
    "Replacement index ".toList ++ Numeral.decimal index ++ " out of range for ".toList ++
      Numeral.decimal argumentCount ++ " argument(s); echoing ".toList ++ Quoted.write field
  | ignoredCount family options =>
    "Ignoring unrecognised ".toList ++ family.name ++ " options ".toList ++ Quoted.write options
  | ignoredBooleanOptions options =>
    "Ignoring unrecognised bool options ".toList ++ Quoted.write options
  | undelimitedRangeOption indicator =>
    "Range option ".toList ++ Quoted.write [indicator] ++ " has no delimited value".toList
  | unclosedRangeOption indicator closer =>
    "Range option ".toList ++ Quoted.write [indicator] ++ " is missing its closing ".toList ++
      Quoted.write [closer]
  | unexpectedRangeOptions rest =>
    "Ignoring unexpected range options ".toList ++ Quoted.write rest
  | recursiveReference type =>
    "Recursive ".toList ++ typeName type ++ " reference; rendering a placeholder".toList
  | registered type => "Registered formatter provider for ".toList ++ typeName type

end Notice

/-! ## Faults -/

/-- The causes that end an operation. -/
inductive Fault where
  /-- A format string left its grammar and recovery was not allowed. -/
  | malformedFormat (malformation : Malformation)
  /-- No renderer is known for a type. -/
  | unsupportedType (type : ArgumentType)
  /-- A value is of no use where it stands: its type has no rendering by the rule that is applied to it,
  or no counterpart in the type that it is converted to. -/
  | unsuitableValue
  /-- A value that a rule knows cannot be written in the notation that the options select. -/
  | unsuitableNotation
  /-- A value has a counterpart in the type that it is converted to only for other contents. -/
  | inconvertibleContent
  /-- An element was to be added to a value that is no list. -/
  | notAList
  /-- The bases of a declared type have no common linearization, or cannot be extended together. -/
  | incompatibleBases
  /-- A decimal numeral is longer than the conversion limit. -/
  | numeralTooLong
  /-- More fraction digits were asked for than the limit allows. -/
  | precisionTooLarge
  /-- A text would have to be repeated more often than the limit allows. -/
  | countTooLarge
  /-- A number lies outside the range of the kind of numbers that it is converted to. -/
  | numberOutOfRange
  /-- A word names no alignment. -/
  | unknownAlignment
  /-- A word names no measure. -/
  | unknownMeasure
  /-- A buffer was asked for with a capacity below zero. -/
  | negativeCapacity
  /-- The bare adapter has no layout of its own to render with. -/
  | abstractAdapter
  /-- A custom renderer gave up with a message. -/
  | raised (message : Text)
  /-- Binding was cut off before the nesting of a value was exhausted. -/
  | nestingTooDeep
  deriving DecidableEq, Repr

/-- The message of the error that a type without a renderer causes, given the full names of types. -/
def unsupportedMessage (typeName : ArgumentType → Text) (type : ArgumentType) : Text :=
  "No formatter available for type ".toList ++ typeName type ++
    "; define __formatv__(stream, options) or register a provider".toList

end FieldText
