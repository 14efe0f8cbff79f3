import Phrasebook.Text.Lowercase

/-! # Language codes

A language code such as `pt-BR`, `pt_BR` or `PT_br` is compared in its normal form: lowercase,
with `-` turned into `_`. Its primary subtag is the text before the first `_`.
-/

namespace Phrasebook.Language

/-- The normal form of a language code: lowercase, with `_` for `-`. -/
def normalize (code : String) : String :=
  String.ofList ((Text.lowercase code).toList.map fun c => if c = '-' then '_' else c)

/-- The primary subtag of a normalized code: the text before the first `_`. -/
def primary (normalized : String) : String :=
  String.ofList (normalized.toList.takeWhile (· ≠ '_'))

end Phrasebook.Language
