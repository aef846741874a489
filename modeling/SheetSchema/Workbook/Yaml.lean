import SheetSchema.Workbook.Basic
import SheetSchema.Yaml.Decode

/-!
# Workbooks in YAML

The YAML form of a workbook has the same shape as the JSON form: sheet names with lists of rows.
-/

namespace SheetSchema.Workbook

/-- Read a workbook from a node. -/
def ofNode (document : Yaml.Document) : Yaml.Node → Yaml.Decoder Workbook := fun root =>
  ofMap <$>
    Yaml.map document
      (Yaml.list document (Yaml.map document (Yaml.cell document (Yaml.maximumDepth - 3)))) root

/-- Read the YAML text of a workbook. -/
def ofYamlText (text : String) : Except Error Workbook :=
  match Yaml.decode? ofNode text with
  | some workbook => .ok workbook
  | none => .error .yaml

end SheetSchema.Workbook
