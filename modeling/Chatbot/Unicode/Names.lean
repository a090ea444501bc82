import Chatbot.Unicode.Category

/-!
# Property and value names

The names of the properties of the Unicode character database (version 16.0) and of the values
of the general category, each with all its aliases, and the loose matching of names: case,
spaces, underscores and hyphens do not count, nor does a leading `is` (so that `IsGreek` is
`Greek`), except that `isc` stays itself, being the alias of `ISO_Comment`.

The properties listed are all those of the database, with or without a table here: a name of a
property without one is still a property's name, which changes how a query that uses it fails.
-/

namespace Chatbot.Unicode

/-- A name with case, spaces, underscores, hyphens, characters beyond ASCII and a leading `is`
ignored; `isc` alone keeps its `is`. -/
def looseName (s : String) : String :=
  let cs := s.toList
  let (hadIs, cs) := match cs with
    | a :: b :: rest => if (a = 'i' ∨ a = 'I') ∧ (b = 's' ∨ b = 'S') then (true, rest) else (false, cs)
    | _ => (false, cs)
  let kept := (cs.filter fun c => c ≠ ' ' && c ≠ '_' && c ≠ '-' && c.toNat < 0x80).map Char.toLower
  if hadIs && kept = ['c'] then "isc" else String.ofList kept

/-- Whether a long name or one of its aliases matches a name already made loose. -/
def matchesLoose (key long : String) (aliases : List String) : Bool :=
  (long :: aliases).any fun n => looseName n == key

/-- The properties, by their long names, each with its aliases. -/
def propertyNames : List (String × List String) := [
  ("kAccountingNumeric", ["cjkAccountingNumeric"]),
  ("kOtherNumeric", ["cjkOtherNumeric"]),
  ("kPrimaryNumeric", ["cjkPrimaryNumeric"]),
  ("Numeric_Value", ["nv"]),
  ("Bidi_Mirroring_Glyph", ["bmg"]),
  ("Bidi_Paired_Bracket", ["bpb"]),
  ("Case_Folding", ["cf"]),
  ("kCompatibilityVariant", ["cjkCompatibilityVariant"]),
  ("Decomposition_Mapping", ["dm"]),
  ("Equivalent_Unified_Ideograph", ["EqUIdeo"]),
  ("FC_NFKC_Closure", ["FC_NFKC"]),
  ("Lowercase_Mapping", ["lc"]),
  ("NFKC_Casefold", ["NFKC_CF"]),
  ("NFKC_Simple_Casefold", ["NFKC_SCF"]),
  ("Simple_Case_Folding", ["scf", "sfc"]),
  ("Simple_Lowercase_Mapping", ["slc"]),
  ("Simple_Titlecase_Mapping", ["stc"]),
  ("Simple_Uppercase_Mapping", ["suc"]),
  ("Titlecase_Mapping", ["tc"]),
  ("Uppercase_Mapping", ["uc"]),
  ("kIICore", ["cjkIICore"]),
  ("kIRG_GSource", ["cjkIRG_GSource"]),
  ("kIRG_HSource", ["cjkIRG_HSource"]),
  ("kIRG_JSource", ["cjkIRG_JSource"]),
  ("kIRG_KPSource", ["cjkIRG_KPSource"]),
  ("kIRG_KSource", ["cjkIRG_KSource"]),
  ("kIRG_MSource", ["cjkIRG_MSource"]),
  ("kIRG_SSource", ["cjkIRG_SSource"]),
  ("kIRG_TSource", ["cjkIRG_TSource"]),
  ("kIRG_UKSource", ["cjkIRG_UKSource"]),
  ("kIRG_USource", ["cjkIRG_USource"]),
  ("kIRG_VSource", ["cjkIRG_VSource"]),
  ("kRSUnicode", ["cjkRSUnicode", "Unicode_Radical_Stroke", "URS"]),
  ("ISO_Comment", ["isc"]),
  ("Jamo_Short_Name", ["JSN"]),
  ("kEH_Cat", []),
  ("kEH_Desc", []),
  ("kEH_HG", []),
  ("kEH_IFAO", []),
  ("kEH_JSesh", []),
  ("Name", ["na"]),
  ("Unicode_1_Name", ["na1"]),
  ("Name_Alias", []),
  ("Script_Extensions", ["scx"]),
  ("Age", ["age"]),
  ("Block", ["blk"]),
  ("Script", ["sc"]),
  ("Bidi_Class", ["bc"]),
  ("Bidi_Paired_Bracket_Type", ["bpt"]),
  ("Canonical_Combining_Class", ["ccc"]),
  ("Decomposition_Type", ["dt"]),
  ("East_Asian_Width", ["ea"]),
  ("General_Category", ["gc"]),
  ("Grapheme_Cluster_Break", ["GCB"]),
  ("Hangul_Syllable_Type", ["hst"]),
  ("Indic_Conjunct_Break", ["InCB"]),
  ("Indic_Positional_Category", ["InPC"]),
  ("Indic_Syllabic_Category", ["InSC"]),
  ("Joining_Group", ["jg"]),
  ("Joining_Type", ["jt"]),
  ("Line_Break", ["lb"]),
  ("NFC_Quick_Check", ["NFC_QC"]),
  ("NFD_Quick_Check", ["NFD_QC"]),
  ("NFKC_Quick_Check", ["NFKC_QC"]),
  ("NFKD_Quick_Check", ["NFKD_QC"]),
  ("Numeric_Type", ["nt"]),
  ("Sentence_Break", ["SB"]),
  ("Vertical_Orientation", ["vo"]),
  ("Word_Break", ["WB"]),
  ("ASCII_Hex_Digit", ["AHex"]),
  ("Alphabetic", ["Alpha"]),
  ("Bidi_Control", ["Bidi_C"]),
  ("Bidi_Mirrored", ["Bidi_M"]),
  ("Cased", []),
  ("Composition_Exclusion", ["CE"]),
  ("Case_Ignorable", ["CI"]),
  ("Full_Composition_Exclusion", ["Comp_Ex"]),
  ("Changes_When_Casefolded", ["CWCF"]),
  ("Changes_When_Casemapped", ["CWCM"]),
  ("Changes_When_NFKC_Casefolded", ["CWKCF"]),
  ("Changes_When_Lowercased", ["CWL"]),
  ("Changes_When_Titlecased", ["CWT"]),
  ("Changes_When_Uppercased", ["CWU"]),
  ("Dash", []),
  ("Deprecated", ["Dep"]),
  ("Default_Ignorable_Code_Point", ["DI"]),
  ("Diacritic", ["Dia"]),
  ("Emoji_Modifier_Base", ["EBase"]),
  ("Emoji_Component", ["EComp"]),
  ("Emoji_Modifier", ["EMod"]),
  ("Emoji", []),
  ("Emoji_Presentation", ["EPres"]),
  ("Extender", ["Ext"]),
  ("Extended_Pictographic", ["ExtPict"]),
  ("Grapheme_Base", ["Gr_Base"]),
  ("Grapheme_Extend", ["Gr_Ext"]),
  ("Grapheme_Link", ["Gr_Link"]),
  ("Hex_Digit", ["Hex"]),
  ("Hyphen", []),
  ("ID_Compat_Math_Continue", []),
  ("ID_Compat_Math_Start", []),
  ("ID_Continue", ["IDC"]),
  ("Ideographic", ["Ideo"]),
  ("ID_Start", ["IDS"]),
  ("IDS_Binary_Operator", ["IDSB"]),
  ("IDS_Trinary_Operator", ["IDST"]),
  ("IDS_Unary_Operator", ["IDSU"]),
  ("Join_Control", ["Join_C"]),
  ("kEH_NoMirror", []),
  ("kEH_NoRotate", []),
  ("Logical_Order_Exception", ["LOE"]),
  ("Lowercase", ["Lower"]),
  ("Math", []),
  ("Modifier_Combining_Mark", ["MCM"]),
  ("Noncharacter_Code_Point", ["NChar"]),
  ("Other_Alphabetic", ["OAlpha"]),
  ("Other_Default_Ignorable_Code_Point", ["ODI"]),
  ("Other_Grapheme_Extend", ["OGr_Ext"]),
  ("Other_ID_Continue", ["OIDC"]),
  ("Other_ID_Start", ["OIDS"]),
  ("Other_Lowercase", ["OLower"]),
  ("Other_Math", ["OMath"]),
  ("Other_Uppercase", ["OUpper"]),
  ("Pattern_Syntax", ["Pat_Syn"]),
  ("Pattern_White_Space", ["Pat_WS"]),
  ("Prepended_Concatenation_Mark", ["PCM"]),
  ("Quotation_Mark", ["QMark"]),
  ("Radical", []),
  ("Regional_Indicator", ["RI"]),
  ("Soft_Dotted", ["SD"]),
  ("Sentence_Terminal", ["STerm"]),
  ("Terminal_Punctuation", ["Term"]),
  ("Unified_Ideograph", ["UIdeo"]),
  ("Uppercase", ["Upper"]),
  ("Variation_Selector", ["VS"]),
  ("White_Space", ["WSpace", "space"]),
  ("XID_Continue", ["XIDC"]),
  ("XID_Start", ["XIDS"]),
  ("Expands_On_NFC", ["XO_NFC"]),
  ("Expands_On_NFD", ["XO_NFD"]),
  ("Expands_On_NFKC", ["XO_NFKC"]),
  ("Expands_On_NFKD", ["XO_NFKD"])]

/-- The values of the general category, by their long names, each with its aliases and the
categories it stands for: a value with a one-letter name is the group of the categories whose
names start with that letter, and `Cased_Letter` is the three cased ones. -/
def categoryNames : List (String × List String × List GeneralCategory) := [
  ("Other", ["C"], [.cc, .cf, .cn, .co, .cs]),
  ("Control", ["Cc", "cntrl"], [.cc]),
  ("Format", ["Cf"], [.cf]),
  ("Unassigned", ["Cn"], [.cn]),
  ("Private_Use", ["Co"], [.co]),
  ("Surrogate", ["Cs"], [.cs]),
  ("Letter", ["L"], [.lu, .ll, .lt, .lm, .lo]),
  ("Cased_Letter", ["LC"], [.lu, .ll, .lt]),
  ("Lowercase_Letter", ["Ll"], [.ll]),
  ("Modifier_Letter", ["Lm"], [.lm]),
  ("Other_Letter", ["Lo"], [.lo]),
  ("Titlecase_Letter", ["Lt"], [.lt]),
  ("Uppercase_Letter", ["Lu"], [.lu]),
  ("Mark", ["M", "Combining_Mark"], [.mn, .mc, .me]),
  ("Spacing_Mark", ["Mc"], [.mc]),
  ("Enclosing_Mark", ["Me"], [.me]),
  ("Nonspacing_Mark", ["Mn"], [.mn]),
  ("Number", ["N"], [.nd, .nl, .no]),
  ("Decimal_Number", ["Nd", "digit"], [.nd]),
  ("Letter_Number", ["Nl"], [.nl]),
  ("Other_Number", ["No"], [.no]),
  ("Punctuation", ["P", "punct"], [.pc, .pd, .ps, .pe, .pi, .pf, .po]),
  ("Connector_Punctuation", ["Pc"], [.pc]),
  ("Dash_Punctuation", ["Pd"], [.pd]),
  ("Close_Punctuation", ["Pe"], [.pe]),
  ("Final_Punctuation", ["Pf"], [.pf]),
  ("Initial_Punctuation", ["Pi"], [.pi]),
  ("Other_Punctuation", ["Po"], [.po]),
  ("Open_Punctuation", ["Ps"], [.ps]),
  ("Symbol", ["S"], [.sm, .sc, .sk, .so]),
  ("Currency_Symbol", ["Sc"], [.sc]),
  ("Modifier_Symbol", ["Sk"], [.sk]),
  ("Math_Symbol", ["Sm"], [.sm]),
  ("Other_Symbol", ["So"], [.so]),
  ("Separator", ["Z"], [.zs, .zl, .zp]),
  ("Line_Separator", ["Zl"], [.zl]),
  ("Paragraph_Separator", ["Zp"], [.zp]),
  ("Space_Separator", ["Zs"], [.zs])]

/-- The long name of the property with a loose name. -/
def propertyNamed (key : String) : Option String :=
  (propertyNames.find? fun (long, aliases) => matchesLoose key long aliases).map Prod.fst

/-- The long name and the categories of the general category value with a loose name. -/
def categoryNamed (key : String) : Option (String × List GeneralCategory) :=
  (categoryNames.find? fun (long, aliases, _) => matchesLoose key long aliases).map
    fun (long, _, cats) => (long, cats)

/-- The place, in a table of values, of the value with a loose name. -/
def valueNamed (names : Array (String × List String)) (key : String) : Option Nat :=
  names.findIdx? fun (long, aliases) => matchesLoose key long aliases

end Chatbot.Unicode
