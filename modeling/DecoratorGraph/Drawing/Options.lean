import DecoratorGraph.Drawing.Settings
import DecoratorGraph.FileTree.Access
import DecoratorGraph.Json.Reader
/-!
# Options files

A file of options in JSON sets a layer of settings. The directories for the artifacts stand
together in a block: if the block is there, all of them have to be.
-/

namespace DecoratorGraph

structure OutputOptions where
  dot : Option Path := none
  image : Option Path := none
  html : Option Path := none
  deriving DecidableEq, Repr

structure DotOptions where
  shapeModules : Option String := none
  shapeProviders : Option String := none
  shapeDirectives : Option String := none
  colorScheme : Option String := none
  deriving DecidableEq, Repr

/-- The contents of an options file. -/
structure OptionsFile where
  name : Option String := none
  output : Option OutputOptions := none
  dot : Option DotOptions := none
  template : Option Path := none
  graphviz : Option String := none
  deriving DecidableEq, Repr

inductive OptionsError where
  | unavailable (path : Path) (cause : IoError)
  /-- The text is no options file. -/
  | unreadable (cause : JsonText.ReadError)
  /-- The block of directories lacks this one. -/
  | incompleteOutput (directory : String)
  deriving DecidableEq, Repr

def OptionsError.message : OptionsError → String
  | .unavailable path cause => "failed to read options file " ++ path.text ++ ": " ++ cause.message
  | .unreadable _ => "failed to parse options file"
  | .incompleteOutput directory =>
    "option \"output\" has been provided but the \"" ++ directory ++
      "\" folder was not specified"

def optionalText : JsonText.Reader (Option String) := JsonText.optional (JsonText.string "a string")

def optionalPath : JsonText.Reader (Option Path) := fun s => do
  let (path, rest) ← JsonText.optional (JsonText.string "path string") s
  .ok (path.map Path.mk, rest)

/-- A field whose value is put into the record by `set`. -/
def fieldOf {σ α : Type} (name : String) (reader : JsonText.Reader α) (set : σ → α → σ) :
    JsonText.Field σ :=
  ⟨name, fun state s => do
    let (value, rest) ← reader s
    .ok (set state value, rest)⟩

def OutputOptions.jsonShape : JsonText.Shape OutputOptions where
  name := "OutputOptions"
  required := 3
  closed := true
  start := {}
  fields := [
    fieldOf "dot" optionalPath fun o value => { o with dot := value },
    fieldOf "image" optionalPath fun o value => { o with image := value },
    fieldOf "html" optionalPath fun o value => { o with html := value }]

def DotOptions.jsonShape : JsonText.Shape DotOptions where
  name := "DotOptions"
  required := 4
  closed := true
  start := {}
  fields := [
    fieldOf "shapeModules" optionalText fun o value => { o with shapeModules := value },
    fieldOf "shapeProviders" optionalText fun o value => { o with shapeProviders := value },
    fieldOf "shapeDirectives" optionalText fun o value => { o with shapeDirectives := value },
    fieldOf "colorScheme" optionalText fun o value => { o with colorScheme := value }]

namespace OptionsFile

def jsonShape : JsonText.Shape OptionsFile where
  name := "OptionsFile"
  required := 5
  closed := true
  start := {}
  fields := [
    fieldOf "name" optionalText fun o value => { o with name := value },
    fieldOf "output" (JsonText.optional OutputOptions.jsonShape.read)
      fun o value => { o with output := value },
    fieldOf "dot" (JsonText.optional DotOptions.jsonShape.read)
      fun o value => { o with dot := value },
    fieldOf "template" optionalPath fun o value => { o with template := value },
    fieldOf "graphviz" optionalText fun o value => { o with graphviz := value }]

def ofJsonText (text : String) : Except JsonText.ReadError OptionsFile :=
  JsonText.readAll jsonShape.read text

def directory (name : String) : Option Path → Except OptionsError Path
  | some path => .ok path
  | none => .error (.incompleteOutput name)

/-- The layer of settings that the options set. The directories are asked for in the order
in which the artifacts are made. -/
def toLayer (o : OptionsFile) : Except OptionsError SettingsLayer := do
  let looks := o.dot.getD {}
  let layer : SettingsLayer :=
    { name := o.name
      moduleShape := looks.shapeModules
      providerShape := looks.shapeProviders
      directiveShape := looks.shapeDirectives
      colorScheme := looks.colorScheme
      template := o.template
      graphviz := o.graphviz }
  match o.output with
  | none => .ok layer
  | some output => do
    let dot ← directory "dot" output.dot
    let image ← directory "image" output.image
    let html ← directory "html" output.html
    .ok { layer with
      dotDirectory := some dot
      imageDirectory := some image
      htmlDirectory := some html }

end OptionsFile

def SettingsLayer.ofOptionsText (text : String) : Except OptionsError SettingsLayer :=
  match OptionsFile.ofJsonText text with
  | .ok options => options.toLayer
  | .error cause => .error (.unreadable cause)

def SettingsLayer.ofOptionsFile (t : FileTree) (path : Path) : Except OptionsError SettingsLayer :=
  match t.readText path with
  | .ok text => ofOptionsText text
  | .error cause => .error (.unavailable path cause)

end DecoratorGraph
