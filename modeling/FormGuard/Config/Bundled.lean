import FormGuard.Config.Loader
import FormGuard.Message.English
import FormGuard.Message.French
import FormGuard.Rule.Bundled

/-! The configuration that comes with the library: a local configuration, the catalog and two message tables, as files
of one folder. -/
namespace FormGuard.Bundled

def config : Value :=
  .object [
    ("validation",.object Settings.defaults),
    ("rule_catalog_uri",.text "rule-catalog.yaml"),
    ("locales_location",.text "locales")]

def tableDocument (table : MessageTable) : Value := .object (table.map fun (n,s) => (n,.text s))

def files : List (String × Value) :=
  [("local-config.yaml",config),
   ("rule-catalog.yaml",catalog),
   ("locales/en.yaml",tableDocument messagesEnglish),
   ("locales/fr.yaml",tableDocument messagesFrench)]

def addTo (t : FileTree (Except DocumentDefect Value)) (folder : String) : FileTree (Except DocumentDefect Value) :=
  files.foldl (fun t (name,v) => t.put (Path.join folder.toList name.toList) (.ok v)) t

end FormGuard.Bundled
