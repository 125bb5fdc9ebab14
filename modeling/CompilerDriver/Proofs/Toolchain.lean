import CompilerDriver.Proofs.Path.Straight
import CompilerDriver.Toolchain

/-!
Where the usual layout puts things. Everything in it lies below the root, and is reached from the
root by names alone; so it is as straight as the root is, and no straighter.
-/

namespace CompilerDriver.Toolchain

variable {name : Path}

theorem isOnward_library : (Path.ofText "lib").IsOnward :=
  Path.isOnward_ofText (by decide) (by decide) (by decide)

theorem isOnward_build : (Path.ofText "build").IsOnward :=
  Path.isOnward_ofText (by decide) (by decide) (by decide)

theorem isOnward_compilerSource : (Path.ofText "compiler.ss").IsOnward :=
  Path.isOnward_ofText (by decide) (by decide) (by decide)

theorem isOnward_shim : (Path.ofText "bootstrap-from-guile.scm").IsOnward :=
  Path.isOnward_ofText (by decide) (by decide) (by decide)

theorem isOnward_launcher : (Path.ofText "schism-node.mjs").IsOnward :=
  Path.isOnward_ofText (by decide) (by decide) (by decide)

theorem isOnward_image (stage : Nat) :
    (Path.ofText ("compiler" ++ toString stage ++ ".wasm")).IsOnward := by
  have spelled : ("compiler" ++ toString stage ++ ".wasm").toList =
      "compiler".toList ++ Nat.toDigits 10 stage ++ ".wasm".toList := by
    rw [String.toList_append, String.toList_append, Nat.toString_eq_repr, Nat.toList_repr]
  have digits : '/' ∉ Nat.toDigits 10 stage := by
    intro member
    exact absurd (Nat.isDigit_of_mem_toDigits (by decide) (by decide) member) (by decide)
  refine Path.isOnward_ofText ?_ ?_ ?_
  · intro nothing
    rw [nothing] at spelled
    exact absurd (congrArg List.length spelled) (by simp)
  · rw [spelled]
    exact of_decide_eq_true rfl
  · rw [spelled]
    simp [digits]

theorem isBelow_library (onward : name.IsOnward) (root : Path) :
    ((library root).join name).IsBelow root :=
  (onward.isBelow_join _).trans (isOnward_library.isBelow_join root)

theorem isStraight_library_iff (onward : name.IsOnward) (root : Path) :
    ((library root).join name).IsStraight ↔ root.IsStraight :=
  (onward.isStraight_join_iff _).trans (isOnward_library.isStraight_join_iff root)

/-- A path that goes on straight from the root of a toolchain. -/
def Holds (toolchain : Toolchain) (path : Path) : Prop :=
  path.IsStraight ∧ path.IsBelow toolchain.root

variable {toolchain : Toolchain}

theorem holds_library (onward : name.IsOnward) (straight : toolchain.root.IsStraight) :
    toolchain.Holds ((library toolchain.root).join name) :=
  ⟨(isStraight_library_iff onward toolchain.root).mpr straight,
    isBelow_library onward toolchain.root⟩

variable (toolchain)

theorem isBelow_compilerSource : toolchain.compilerSource.IsBelow toolchain.root :=
  isBelow_library isOnward_compilerSource toolchain.root

theorem isBelow_stagedImage (stage : Nat) :
    (toolchain.stagedImage stage).IsBelow toolchain.root :=
  (isBelow_library (isOnward_image stage) _).trans (isOnward_build.isBelow_join toolchain.root)

theorem isStraight_stagedImage_iff (stage : Nat) :
    (toolchain.stagedImage stage).IsStraight ↔ toolchain.root.IsStraight :=
  (isStraight_library_iff (isOnward_image stage) _).trans
    (isOnward_build.isStraight_join_iff toolchain.root)

variable {toolchain} in
theorem holds_stagedImage (straight : toolchain.root.IsStraight) (stage : Nat) :
    toolchain.Holds (toolchain.stagedImage stage) :=
  ⟨(toolchain.isStraight_stagedImage_iff stage).mpr straight, toolchain.isBelow_stagedImage stage⟩

end CompilerDriver.Toolchain
