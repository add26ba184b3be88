import StorageSetup.Config
import StorageSetup.Text.Blank
import StorageSetup.Yaml.Decode
/-!
# Configuration files

The settings are written as a YAML mapping. An empty file keeps every default, and names that are
no setting are ignored.
-/

namespace StorageSetup.Config

open Yaml (Decode)

/-- A setting that is a text. -/
def textSetting (name : String) (put : Config → String → Config) : Decode.Setter Config :=
  { name, set := fun v c doc => do return put c (← Decode.text v doc) }

def settings : List (Decode.Setter Config) := [
  textSetting "namespace" fun c s => { c with namespaceName := s },
  textSetting "storageClusterName" fun c s => { c with storageClusterName := s },
  textSetting "externalStorageClusterName" fun c s => { c with externalStorageClusterName := s },
  textSetting "localStorageNamespace" fun c s => { c with localStorageNamespace := s },
  { name := "kubeContext"
    set := fun v c doc => do return { c with kubeContext := ← Decode.optionalText v doc } }]

/-- The settings of a text. -/
def ofYaml (content : String) : Except Yaml.Error Config :=
  if (Text.trim content).isEmpty then .ok {} else Yaml.readRecord settings {} content

end StorageSetup.Config
