import CompilerDriver.Command
import CompilerDriver.Template

/-!
Where the external programs are found, and the command lines they are called with. Below the root,
`lib` holds the compiler source, the bootstrap shim and the launcher, and `build/lib` holds the
staged compiler images. Whether any of these exists is not asked here.
-/

namespace CompilerDriver

inductive Runtime where
  | node
  deriving Repr, DecidableEq, Inhabited

def Runtime.name : Runtime → String
  | .node => "node"

inductive Verb where
  | compile
  | evaluate
  | interact
  deriving Repr, DecidableEq, Inhabited

def Verb.word : Verb → String
  | .compile => "compile"
  | .evaluate => "eval"
  | .interact => "repl"

structure Toolchain where
  root : Path
  host : Path
  shim : Path
  node : Path
  launcher : Path
  deriving Repr, DecidableEq, Inhabited

namespace Toolchain

def library (root : Path) : Path :=
  root.join (.ofText "lib")

def defaultHost : Path := .ofText "guile-2.2"

def defaultNode : Path := .ofText "node"

/-- The usual layout below a root, with the usual programs. -/
def standard (root : Path) : Toolchain :=
  { root := root
    host := defaultHost
    shim := (library root).join (.ofText "bootstrap-from-guile.scm")
    node := defaultNode
    launcher := (library root).join (.ofText "schism-node.mjs") }

def withHost (toolchain : Toolchain) (host : Option Path) : Toolchain :=
  { toolchain with host := host.getD toolchain.host }

def withNode (toolchain : Toolchain) (node : Option Path) : Toolchain :=
  { toolchain with node := node.getD toolchain.node }

def withLauncher (toolchain : Toolchain) (launcher : Option Path) : Toolchain :=
  { toolchain with launcher := launcher.getD toolchain.launcher }

def compilerSource (toolchain : Toolchain) : Path :=
  (library toolchain.root).join (.ofText "compiler.ss")

def stagedImage (toolchain : Toolchain) (stage : Nat) : Path :=
  (library (toolchain.root.join (.ofText "build"))).join
    (.ofText ("compiler" ++ toString stage ++ ".wasm"))

/-- Host, shim, output and source, in this order. -/
def bootstrapCommand (toolchain : Toolchain) (output : Target) (source : Path) : Command :=
  { program := toolchain.host.bytes
    arguments := [toolchain.shim.bytes, output.argument.bytes, source.bytes] }

def launcherCommand (toolchain : Toolchain) (runtime : Runtime) (verb : Verb) (image : Path)
    (arguments : List Bytes) : Command :=
  match runtime with
  | .node =>
      { program := toolchain.node.bytes
        arguments :=
          [toolchain.launcher.bytes, Bytes.ofText verb.word, image.bytes] ++ arguments }

def toJson? (toolchain : Toolchain) : Option Json := do
  let root ← toolchain.root.text?
  let host ← toolchain.host.text?
  let shim ← toolchain.shim.text?
  let node ← toolchain.node.text?
  let launcher ← toolchain.launcher.text?
  return .object
    [("root", .text root), ("host", .text host), ("shim", .text shim), ("node", .text node),
     ("launcher", .text launcher)]

end CompilerDriver.Toolchain
