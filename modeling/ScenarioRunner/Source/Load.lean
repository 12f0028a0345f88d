import ScenarioRunner.Document.Reader
import ScenarioRunner.Source.Provider

namespace ScenarioRunner

namespace Provider

/-- Reads all documents under a root. A root without documents is passed over. -/
def loadRoot (provider : Provider) (root : SourcePath) : List (Except SourceError Feature) :=
  match provider.list root with
  | .error (.notFound _) => []
  | .error error => [.error error]
  | .ok paths => paths.map fun path => (provider.read path).map (readFeature (some path))

/-- Reads all documents under some roots, root after root. -/
def load (provider : Provider) (roots : List SourcePath) : List (Except SourceError Feature) :=
  roots.flatMap provider.loadRoot

end Provider

end ScenarioRunner
