import Phrasebook.Language.Code

/-! # Plural rules

A target text that depends on a count has one form per plural category of its language, in a
fixed order. A plural rule says how many forms there are and which form a count selects. The
rule of a language is found from its primary subtag; Brazilian Portuguese (`pt_BR`) counts like
French. Counts are taken by absolute value.
-/

namespace Phrasebook

/-- The plural rules of the supported languages. -/
inductive PluralRule where
  /-- One form for every count (Japanese, Chinese, ...). -/
  | one
  /-- `1` and everything else (English, German, ...). -/
  | oneOther
  /-- `0` and `1`, and everything else (French, ...). -/
  | french
  /-- Russian, Ukrainian, Belarusian, Serbian, Croatian, Bosnian. -/
  | eastSlavic
  | polish
  | czechSlovak
  | lithuanian
  | latvian
  | romanian
  | slovenian
  | irish
  | arabic
  deriving Repr, DecidableEq, BEq

namespace PluralRule

/-- The rule of a primary subtag. -/
def ofPrimary : String → Option PluralRule
  | "ja" | "zh" | "ko" | "vi" | "th" | "id" | "ms" | "tr" | "fa" | "ka" | "lo" | "km" | "my"
  | "jv" | "su" => some .one
  | "en" | "de" | "nl" | "sv" | "da" | "nb" | "nn" | "no" | "fi" | "et" | "it" | "es" | "pt"
  | "el" | "hu" | "bg" | "ca" | "eu" | "gl" | "eo" | "he" | "hi" | "bn" | "ta" | "te" | "ml"
  | "kn" | "mr" | "gu" | "pa" | "ur" | "sq" | "af" | "az" | "kk" | "ky" | "mn" | "uz" | "is"
  | "fo" | "sw" | "zu" | "xh" | "fy" | "lb" => some .oneOther
  | "fr" | "oc" | "ln" | "ti" | "ak" | "fil" => some .french
  | "ru" | "uk" | "be" | "sr" | "hr" | "bs" => some .eastSlavic
  | "pl" => some .polish
  | "cs" | "sk" => some .czechSlovak
  | "lt" => some .lithuanian
  | "lv" => some .latvian
  | "ro" | "mo" => some .romanian
  | "sl" => some .slovenian
  | "ga" => some .irish
  | "ar" => some .arabic
  | _ => none

/-- The rule of a language code, if the language is supported. -/
def ofLanguage (code : String) : Option PluralRule :=
  let n := Language.normalize code
  if n = "pt_br" then some .french else ofPrimary (Language.primary n)

/-- How many forms the rule has. -/
def formCount : PluralRule → Nat
  | .one => 1
  | .oneOther | .french => 2
  | .eastSlavic | .polish | .czechSlovak | .lithuanian | .latvian | .romanian | .irish => 3
  | .slovenian => 4
  | .arabic => 6

/-- The form that a count selects. -/
def formIndex (r : PluralRule) (count : Int) : Nat :=
  let n := count.natAbs
  let m10 := n % 10
  let m100 := n % 100
  let teen := 12 ≤ m100 ∧ m100 ≤ 14
  match r with
  | .one => 0
  | .oneOther => if n ≠ 1 then 1 else 0
  | .french => if n ≥ 2 then 1 else 0
  | .eastSlavic =>
    if m10 = 1 ∧ m100 ≠ 11 then 0 else if 2 ≤ m10 ∧ m10 ≤ 4 ∧ ¬teen then 1 else 2
  | .polish => if n = 1 then 0 else if 2 ≤ m10 ∧ m10 ≤ 4 ∧ ¬teen then 1 else 2
  | .czechSlovak => if n = 1 then 0 else if 2 ≤ n ∧ n ≤ 4 then 1 else 2
  | .lithuanian =>
    if m10 = 1 ∧ m100 ≠ 11 then 0 else if m10 ≥ 2 ∧ (m100 < 10 ∨ m100 ≥ 20) then 1 else 2
  | .latvian => if m10 = 1 ∧ m100 ≠ 11 then 0 else if n ≠ 0 then 1 else 2
  | .romanian => if n = 1 then 0 else if n = 0 ∨ (1 ≤ m100 ∧ m100 ≤ 19) then 1 else 2
  | .slovenian => if m100 = 1 then 0 else if m100 = 2 then 1 else if m100 = 3 ∨ m100 = 4 then 2 else 3
  | .irish => if n = 1 then 0 else if n = 2 then 1 else 2
  | .arabic =>
    if n = 0 then 0 else if n = 1 then 1 else if n = 2 then 2
    else if 3 ≤ m100 ∧ m100 ≤ 10 then 3 else if m100 ≥ 11 then 4 else 5

/-- The rule's name in lower camel case. -/
def name : PluralRule → String
  | .one => "one"
  | .oneOther => "oneOther"
  | .french => "french"
  | .eastSlavic => "eastSlavic"
  | .polish => "polish"
  | .czechSlovak => "czechSlovak"
  | .lithuanian => "lithuanian"
  | .latvian => "latvian"
  | .romanian => "romanian"
  | .slovenian => "slovenian"
  | .irish => "irish"
  | .arabic => "arabic"

end PluralRule

end Phrasebook
