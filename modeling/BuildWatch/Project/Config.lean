import BuildWatch.Json.Record

/-!
The project file: its fields, their names and what they start as.
-/

namespace BuildWatch

structure MinifierConfig where
  compress : String
  deriving DecidableEq, Repr

/-- What a project file says; fields that are left out are empty. -/
structure ProjectConfig where
  title : String
  filename : String
  mainCompo : String
  mainStandard : String
  sourceDir : String
  timestamp : Option String
  minifier : Option MinifierConfig
  deriving DecidableEq, Repr

def MinifierConfig.shape : Json.Shape MinifierConfig where
  title := "struct TerserConfig"
  initial := ⟨""⟩
  fields := [⟨"compress", fun config cursor => do
    let (compress, after) ← Json.text cursor
    .ok ({ config with compress }, after)⟩]

namespace ProjectConfig

def initial : ProjectConfig := ⟨"", "", "", "", "", none, none⟩

def textField (name : String) (set : ProjectConfig → String → ProjectConfig) :
    Json.Field ProjectConfig :=
  ⟨name, fun config cursor => do
    let (value, after) ← Json.text cursor
    .ok (set config value, after)⟩

def fields : List (Json.Field ProjectConfig) := [
  textField "title" fun config title => { config with title },
  textField "filename" fun config filename => { config with filename },
  textField "main.compo" fun config mainCompo => { config with mainCompo },
  textField "main.standard" fun config mainStandard => { config with mainStandard },
  textField "srcDir" fun config sourceDir => { config with sourceDir },
  ⟨"timestamp", fun config cursor => do
    let (timestamp, after) ← Json.optional Json.text cursor
    .ok ({ config with timestamp }, after)⟩,
  ⟨"terser", fun config cursor => do
    let (minifier, after) ← Json.optional (Json.record MinifierConfig.shape) cursor
    .ok ({ config with minifier }, after)⟩]

def shape : Json.Shape ProjectConfig where
  title := "struct ProjectConfig"
  initial := initial
  fields := fields

def parse (bytes : List UInt8) : Except Json.Error ProjectConfig :=
  Json.whole? (Json.record shape) bytes

end ProjectConfig

end BuildWatch
