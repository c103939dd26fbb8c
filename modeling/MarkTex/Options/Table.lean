import MarkTex.Options.Basic
import MarkTex.Table.Basic

/-!
# Table options

The fields of the options for tables: the rules, and the width from which on a column wraps.
-/

namespace MarkTex

instance : Inhabited Table.Options := ⟨{}⟩

instance : OptionSet Table.Options where
  className := "TableOptions"
  fields o := [("table_style", .str o.style.name), ("auto_wrap_threshold", .int o.wrapThreshold)]
  ofFields fields := do
    let style ← readChoice "table_style" [.booktabs, .standard] Table.Style.name
      (fields.get "table_style")
    let threshold ← readPositive "auto_wrap_threshold" (fields.get "auto_wrap_threshold")
    return ⟨style, threshold.val, threshold.property⟩

end MarkTex
