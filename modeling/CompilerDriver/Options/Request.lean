import CompilerDriver.Configuration
import CompilerDriver.Options.Draft

/-!
From the options of an invocation to a request. The root and the launcher are anchored at the
working directory; programs are not, because they are looked up when they are started.
-/

namespace CompilerDriver.Options

def toolchain (options : Options) (defaultRoot directory : Path) : Toolchain :=
  let root := (options.root.map directory.anchor).getD defaultRoot
  (((Toolchain.standard root).withHost options.host).withNode options.node).withLauncher
    (options.launcher.map directory.anchor)

def request (options : Options) (defaultRoot directory : Path) : Request :=
  { bootstrap := options.bootstrap
    image := options.image
    stage := options.stage
    interactive := options.interactive
    forms := options.forms
    template := some options.template
    runtime := options.runtime
    inputs := options.files
    jobs := some options.jobs
    timeout := options.timeout.map Duration.ofSeconds
    warnings := if options.failOnWarnings then .fail else .surface
    toolchain := options.toolchain defaultRoot directory }

def configuration (options : Options) (defaultRoot directory : Path) :
    Except ConfigError Configuration :=
  (options.request defaultRoot directory).check directory

/-- The same for a working directory that may have no path any more. -/
def configurationIn (options : Options) (defaultRoot : Path)
    (directory : Except OsError Path) : Except ConfigError Configuration :=
  match directory with
  | .ok path => options.configuration defaultRoot path
  | .error cause => .error (.currentDirectory cause)

end CompilerDriver.Options
