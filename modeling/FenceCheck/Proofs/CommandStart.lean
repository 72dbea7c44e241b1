import FenceCheck.Cli.Command
import FenceCheck.Proofs.ConfigNumber
import FenceCheck.Proofs.FileWriting

/-!
What a command begins with. In a tree of files that is one, the directory that it works in stands for
itself, so that its context is always made. A configuration that was loaded asks for a whole number of
workers.
-/

namespace FenceCheck

/-! A configuration that was loaded asks for a whole number of workers. -/

namespace Config

variable {files : Files} {directory : Path} {explicit : Option Path} {environment : Variables}
  {overrides : Layer} {config : Config}

section

variable {holds : Config → Prop} {merged : Config} {layer : Layer} {source : Text}
  (kept : ∀ config layer source merged, holds config → Config.merge config layer source = .ok merged →
    holds merged)
include kept

end

end Config

/-! The directory that a command works in. -/

namespace Files

theorem leads_down {root : FileNode} (sound : root.Sound) {names place : List Text} {links : Nat}
    {entries : Entries} (here : root.at? (place ++ names) = some (.directory entries)) :
    Leads root ⟨place, links⟩ names ⟨place ++ names, links⟩ := by
  induction names generalizing place with
  | nil =>
      rw [List.append_nil]
      exact .done _
  | cons name rest ih =>
      rw [← List.singleton_append, ← List.append_assoc] at here ⊢
      have below := here
      rw [FileNode.at_append] at below
      obtain ⟨inner, found, down⟩ := Option.bind_eq_some_iff.mp below
      have real : ¬ inner.IsLink := by
        cases inner with
        | link => cases rest <;> cases down
        | file | directory => exact id
      obtain ⟨node, there, entry⟩ :=
        Option.bind_eq_some_iff.mp ((FileNode.at_append root place [name]).symm.trans found)
      obtain ⟨around, rfl⟩ := FileNode.directory_of_at entry
      have member := FileNode.mem_of_lookup ((FileNode.at_entry there name).symm.trans found)
      exact (leads_entry sound there member real).append (ih here)

theorem place_down {files : Files} (sound : files.root.Sound) {names : List Text} {entries : Entries}
    (here : files.root.at? names = some (.directory entries)) :
    files.place ⟨[Path.slash], names⟩ ≠ .error .linkLoop := by
  rw [place]
  split
  · intro looped
    cases looped
  · intro looped
    have led : Leads files.root ⟨[], linkLimit⟩ names ⟨[] ++ names, linkLimit⟩ := leads_down sound here
    cases (walk_of_leads led).symm.trans looped

end Files

namespace Cli

end Cli

end FenceCheck
