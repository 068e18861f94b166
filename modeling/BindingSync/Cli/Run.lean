import BindingSync.Cli.Program
import BindingSync.Cli.Style
import BindingSync.Yaml.Value

/-!
# Running the program

The program runs with the reader of YAML and the marks of colours of this library.
-/

namespace BindingSync

instance : Yaml.Loader where
  load := Yaml.load

instance : Cli.Painter where
  paint := Cli.Colour.paint

end BindingSync
