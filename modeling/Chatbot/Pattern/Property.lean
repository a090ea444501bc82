import Chatbot.Pattern.CharSet
import Chatbot.Pattern.Report
import Chatbot.Unicode.Names
import Chatbot.Unicode.Script
import Chatbot.Unicode.Binary
import Chatbot.Unicode.Segment

/-!
# Unicode properties

A class `\p{...}` names a Unicode property, written with one letter (`\pN`), a name
(`\p{Name}`), or a property and a value (`\p{name=value}`, `\p{name:value}` or
`\p{name!=value}`, the last one negated). Names are compared loosely (`looseName`).

A lone name is tried in turn as a property, a value of the general category, and a script:

* as a property, it must be one with a table of code points (a binary property such as
  `Alphabetic`); the name of any other property, such as `Block`, is an error. The names `cf`,
  `sc` and `lc`, which are both properties and categories, are taken as categories;
* as a value of the general category, it may also be `Any`, `Assigned` or `ASCII`;
* as a script, it means the code points whose script it is, not its script extensions.

A property with a value must be the general category, the script, the script extensions, the
age (which holds all the code points assigned up to that version), or one of the classes of
grapheme, word or sentence breaking. A value that names no code point (a break class that is no
longer used, or `Other`, which the break tables leave out) is an error too.
-/

namespace Chatbot.Pattern

open Chatbot.Unicode

/-- How a Unicode class is written. -/
inductive UnicodeQuery where
  /-- A one-letter name, as in `\pL`. -/
  | oneLetter (c : Char)
  /-- A name, as in `\p{Greek}`. -/
  | named (name : String)
  /-- A property and a value; `negated` for `!=`. -/
  | byValue (negated : Bool) (property value : String)
  deriving DecidableEq, Repr

/-- A table of code points, or the error of a value that names none. -/
def nonEmptyTable (t : Array (Nat × Nat)) : Except ErrorKind CharSet :=
  if t.isEmpty then .error .unicodePropertyValueNotFound else .ok (.table t)

/-- The set of a value of the general category, or of `Any`, `Assigned` or `ASCII`, by its
loose name. -/
def categorySet (key : String) : Option CharSet :=
  match key with
  | "any" => some (.complement .none)
  | "assigned" => some (.complement (.table (categoryRanges [.cn])))
  | "ascii" => some (.range 0 0x7F)
  | _ => (categoryNamed key).map fun (_, cats) => .table (categoryRanges cats)

/-- The set of a script, by its loose name: `none` for no script of that name. -/
def scriptSet (key : String) : Option (Except ErrorKind CharSet) :=
  (valueNamed scriptNames key).map fun k => nonEmptyTable (scriptRanges k)

/-- The set of the code points whose script extensions hold a script, by its loose name. -/
def scriptExtensionSet (key : String) : Except ErrorKind CharSet :=
  match valueNamed scriptNames key with
  | some k => nonEmptyTable (scriptExtensionRanges k)
  | none => .error .unicodePropertyValueNotFound

/-- The set of the code points assigned up to a version, by its loose name. -/
def ageSet (key : String) : Except ErrorKind CharSet :=
  match valueNamed ageNames key with
  | some k => .ok (.table (runsWith ageRuns fun v => v ≤ k))
  | none => .error .unicodePropertyValueNotFound

/-- The set of a class of a break table, by its loose name; `Other` has no table. -/
def breakSet (names : Array (String × List String)) (runs : Array (Nat × Nat × Nat))
    (key : String) : Except ErrorKind CharSet :=
  match valueNamed names key with
  | some k =>
    if (names.getD k ("", [])).1 = "Other" then .error .unicodePropertyValueNotFound
    else nonEmptyTable (runsWith runs fun v => v == k)
  | none => .error .unicodePropertyValueNotFound

/-- The set of a lone name: a binary property, a general category value, or a script. -/
def namedSet (name : String) : Except ErrorKind CharSet :=
  let key := looseName name
  let asProperty := if key = "cf" || key = "sc" || key = "lc" then none else propertyNamed key
  match asProperty with
  | some long =>
    match binaryRanges long with
    | some t => .ok (.table t)
    | none => .error .unicodePropertyNotFound
  | none =>
    match categorySet key with
    | some s => .ok s
    | none => (scriptSet key).getD (.error .unicodePropertyNotFound)

/-- The set of a property with a value. -/
def valueSet (property value : String) : Except ErrorKind CharSet :=
  let key := looseName value
  match propertyNamed (looseName property) with
  | none => .error .unicodePropertyNotFound
  | some "General_Category" => (categorySet key).elim (.error .unicodePropertyValueNotFound) .ok
  | some "Script" => (scriptSet key).getD (.error .unicodePropertyValueNotFound)
  | some "Script_Extensions" => scriptExtensionSet key
  | some "Age" => ageSet key
  | some "Grapheme_Cluster_Break" => breakSet graphemeBreakNames graphemeBreakRuns key
  | some "Word_Break" => breakSet wordBreakNames wordBreakRuns key
  | some "Sentence_Break" => breakSet sentenceBreakNames sentenceBreakRuns key
  | some _ => .error .unicodePropertyValueNotFound

/-- The set of a query, or the reason it has none. -/
def UnicodeQuery.lookup : UnicodeQuery → Except ErrorKind CharSet
  | .oneLetter c => namedSet (String.singleton c)
  | .named n => namedSet n
  | .byValue _ p v => valueSet p v

/-- Whether a query is negated by its operator. -/
def UnicodeQuery.negatedByOperator : UnicodeQuery → Bool
  | .byValue n _ _ => n
  | _ => false

end Chatbot.Pattern
