import PathQuery.Unicode.Age
import PathQuery.Unicode.Break
import PathQuery.Unicode.Category
import PathQuery.Unicode.Property
import PathQuery.Unicode.Script
import PathQuery.Unicode.ScriptExtension

set_option autoImplicit false

namespace PathQuery.Unicode

inductive PropertyQuery where
  | name (name : String)
  | value (property value : String)

inductive LookupError where
  | unknownProperty
  | unknownValue

-- The part of a name that counts. The lone letter c after "is" keeps it, because "isc" names a
-- property of its own.
def looseName (name : String) : String :=
  let body := match name.toList with
    | i :: s :: rest => if i.toLower = 'i' ∧ s.toLower = 's' then rest else name.toList
    | _ => name.toList
  let kept := (body.filter fun c => c ≠ ' ' ∧ c ≠ '_' ∧ c ≠ '-' ∧ c.toNat < 128).map Char.toLower
  let dropped := body.length < name.length
  String.ofList (if dropped ∧ kept = ['c'] then ['i', 's', 'c'] else kept)

def Table.find (t : Table) (loose : String) : Option Entry :=
  t.find? fun entry => entry.names.any (looseName · = loose)

def categoryGroups : List (List String × List String) :=
  [ (["LC", "Cased_Letter"], ["Lu", "Ll", "Lt"]),
    (["L", "Letter"], ["Lu", "Ll", "Lt", "Lm", "Lo"]),
    (["M", "Mark", "Combining_Mark"], ["Mn", "Mc", "Me"]),
    (["N", "Number"], ["Nd", "Nl", "No"]),
    (["P", "Punctuation", "Punct"], ["Pc", "Pd", "Ps", "Pe", "Pi", "Pf", "Po"]),
    (["S", "Symbol"], ["Sm", "Sc", "Sk", "So"]),
    (["Z", "Separator"], ["Zs", "Zl", "Zp"]),
    (["C", "Other"], ["Cc", "Cf", "Co", "Cn"]),
    (["Assigned"],
      ["Lu", "Ll", "Lt", "Lm", "Lo", "Mn", "Mc", "Me", "Nd", "Nl", "No", "Pc", "Pd", "Ps", "Pe",
        "Pi", "Pf", "Po", "Sm", "Sc", "Sk", "So", "Zs", "Zl", "Zp", "Cc", "Cf", "Co"]) ]

def barren (names : List String) (loose : String) : Bool := names.any (looseName · = loose)

def barrenCategories : List String := ["Cs", "Surrogate"]

def barrenScripts : List String := ["Hrkt", "Katakana_Or_Hiragana", "Zzzz", "Unknown"]

-- The sets that make up a general category, `none` where the name is not one.
def category? (loose : String) : Option (Except LookupError (List CodeSet)) :=
  if loose = "any" then some (.ok [#[⟨0, 0x10ffff⟩]])
  else if loose = "ascii" then some (.ok [#[⟨0, 127⟩]])
  else if barren barrenCategories loose then some (.error .unknownValue)
  else match categoryTable.find loose with
    | some entry => some (.ok [entry.codes])
    | none =>
        (categoryGroups.find? fun g => g.1.any (looseName · = loose)).map fun g =>
          .ok (g.2.map categoryTable.codes)

def script? (t : Table) (loose : String) : Option (Except LookupError (List CodeSet)) :=
  if barren barrenScripts loose then some (.error .unknownValue)
  else (t.find loose).map fun entry => .ok [entry.codes]

def value? (t : Table) (loose : String) : Option (Except LookupError (List CodeSet)) :=
  (t.find loose).map fun entry => .ok [entry.codes]

def age? (loose : String) : Option (Except LookupError (List CodeSet)) :=
  (ageTable.findIdx? fun entry => entry.names.any (looseName · = loose)).map fun i =>
    .ok ((ageTable.take (i + 1)).map Entry.codes)

def otherProperties : List String := words "
  bc Bidi_Class blk Block bmg Bidi_Mirroring_Glyph bpb Bidi_Paired_Bracket bpt
  Bidi_Paired_Bracket_Type ccc Canonical_Combining_Class CE Composition_Exclusion cf Case_Folding
  cjkAccountingNumeric kAccountingNumeric cjkCompatibilityVariant kCompatibilityVariant cjkIICore
  kIICore cjkIRG_GSource kIRG_GSource cjkIRG_HSource kIRG_HSource cjkIRG_JSource kIRG_JSource
  cjkIRG_KPSource kIRG_KPSource cjkIRG_KSource kIRG_KSource cjkIRG_MSource kIRG_MSource
  cjkIRG_SSource kIRG_SSource cjkIRG_TSource kIRG_TSource cjkIRG_UKSource kIRG_UKSource
  cjkIRG_USource kIRG_USource cjkIRG_VSource kIRG_VSource cjkOtherNumeric kOtherNumeric
  cjkPrimaryNumeric kPrimaryNumeric cjkRSUnicode kRSUnicode Unicode_Radical_Stroke URS
  Comp_Ex Full_Composition_Exclusion CWKCF Changes_When_NFKC_Casefolded dm Decomposition_Mapping
  dt Decomposition_Type ea East_Asian_Width EqUIdeo Equivalent_Unified_Ideograph FC_NFKC
  FC_NFKC_Closure hst Hangul_Syllable_Type InCB Indic_Conjunct_Break InPC
  Indic_Positional_Category InSC Indic_Syllabic_Category isc ISO_Comment jg Joining_Group
  JSN Jamo_Short_Name jt Joining_Type lb Line_Break lc Lowercase_Mapping na Name na1
  Unicode_1_Name Name_Alias NFC_QC NFC_Quick_Check NFD_QC NFD_Quick_Check NFKC_CF NFKC_Casefold
  NFKC_QC NFKC_Quick_Check NFKC_SCF NFKC_Simple_Casefold NFKD_QC NFKD_Quick_Check nt Numeric_Type
  nv Numeric_Value scf Simple_Case_Folding sfc slc Simple_Lowercase_Mapping stc
  Simple_Titlecase_Mapping suc Simple_Uppercase_Mapping tc Titlecase_Mapping uc Uppercase_Mapping
  vo Vertical_Orientation XO_NFC Expands_On_NFC XO_NFD Expands_On_NFD XO_NFKC Expands_On_NFKC
  XO_NFKD Expands_On_NFKD"

-- A value of a property. A known property without such a value is one error, an unknown property is
-- another.
def findValue (property value : String) : Except LookupError (List CodeSet) :=
  let found? :=
    if property = "gc" ∨ property = "generalcategory" then some (category? value)
    else if property = "sc" ∨ property = "script" then some (script? scriptTable value)
    else if property = "scx" ∨ property = "scriptextensions" then
      some (script? scriptExtensionTable value)
    else if property = "age" then some (age? value)
    else if property = "gcb" ∨ property = "graphemeclusterbreak" then
      some (value? graphemeBreakTable value)
    else if property = "wb" ∨ property = "wordbreak" then some (value? wordBreakTable value)
    else if property = "sb" ∨ property = "sentencebreak" then
      some (value? sentenceBreakTable value)
    else if (propertyTable.find property).isSome ∨ barren otherProperties property then some none
    else none
  match found? with
  | none => .error .unknownProperty
  | some none => .error .unknownValue
  | some (some result) => result

-- A name on its own is a yes-or-no property, a general category or a script. Three short names of
-- categories are also short names of properties, and the category has them.
def findName (name : String) : Except LookupError (List CodeSet) :=
  let shared := name = "cf" ∨ name = "sc" ∨ name = "lc"
  match if shared then none else propertyTable.find name with
  | some entry => .ok [entry.codes]
  | none =>
      match category? name with
      | some result => result
      | none => (script? scriptTable name).getD (.error .unknownProperty)

def PropertyQuery.find : PropertyQuery → Except LookupError (List CodeSet)
  | .name n => findName (looseName n)
  | .value p v => findValue (looseName p) (looseName v)

end PathQuery.Unicode
