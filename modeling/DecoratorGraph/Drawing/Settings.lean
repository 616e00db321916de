import DecoratorGraph.Path
/-!
# Settings of a drawing

How a graph is drawn and where the artifacts go. Settings come in layers of which each may
leave any field open; a later layer takes precedence field by field, and what no layer sets
has a default. The default directories follow from the name that all layers together give.
-/

namespace DecoratorGraph

/-- A layer of settings, any of which may be left open. -/
structure SettingsLayer where
  name : Option String := none
  dotDirectory : Option Path := none
  imageDirectory : Option Path := none
  htmlDirectory : Option Path := none
  moduleShape : Option String := none
  providerShape : Option String := none
  directiveShape : Option String := none
  colorScheme : Option String := none
  template : Option Path := none
  graphviz : Option String := none
  deriving DecidableEq, Repr

/-- Complete settings. Without a template the standard one is used. -/
structure Settings where
  name : String
  dotDirectory : Path
  imageDirectory : Path
  htmlDirectory : Path
  moduleShape : String
  providerShape : String
  directiveShape : String
  colorScheme : String
  template : Option Path
  graphviz : String
  deriving DecidableEq, Repr

namespace SettingsLayer

/-- The layer in which the fields set in `top` take precedence over those of `base`. -/
def overlay (base top : SettingsLayer) : SettingsLayer where
  name := top.name <|> base.name
  dotDirectory := top.dotDirectory <|> base.dotDirectory
  imageDirectory := top.imageDirectory <|> base.imageDirectory
  htmlDirectory := top.htmlDirectory <|> base.htmlDirectory
  moduleShape := top.moduleShape <|> base.moduleShape
  providerShape := top.providerShape <|> base.providerShape
  directiveShape := top.directiveShape <|> base.directiveShape
  colorScheme := top.colorScheme <|> base.colorScheme
  template := top.template <|> base.template
  graphviz := top.graphviz <|> base.graphviz

@[simp] theorem overlay_empty (l : SettingsLayer) : l.overlay {} = l := by
  simp [overlay]

@[simp] theorem empty_overlay (l : SettingsLayer) : overlay {} l = l := by
  simp [overlay]

theorem overlay_assoc (l m n : SettingsLayer) :
    (l.overlay m).overlay n = l.overlay (m.overlay n) := by
  simp [overlay, Option.or_assoc]

end SettingsLayer

namespace Settings

/-- The directory below which the artifacts of a drawing go unless told otherwise. -/
def samples (name : String) : Path := (Path.mk "samples").join ⟨name⟩

def resolve (l : SettingsLayer) : Settings :=
  let name := l.name.getD "dependencies"
  { name := name
    dotDirectory := l.dotDirectory.getD ((samples name).join ⟨"dot"⟩)
    imageDirectory := l.imageDirectory.getD ((samples name).join ⟨"image"⟩)
    htmlDirectory := l.htmlDirectory.getD ((samples name).join ⟨"html"⟩)
    moduleShape := l.moduleShape.getD "component"
    providerShape := l.providerShape.getD "ellipse"
    directiveShape := l.directiveShape.getD "cds"
    colorScheme := l.colorScheme.getD "paired12"
    template := l.template
    graphviz := l.graphviz.getD "dot" }

def dotFile (s : Settings) : Path := s.dotDirectory.join ⟨s.name ++ ".dot"⟩

def imageFile (s : Settings) : Path := s.imageDirectory.join ⟨s.name ++ ".svg"⟩

def htmlFile (s : Settings) : Path := s.htmlDirectory.join ⟨s.name ++ ".html"⟩

end Settings

end DecoratorGraph
