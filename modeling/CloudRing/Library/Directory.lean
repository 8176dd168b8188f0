import Mathlib.Logic.Basic

/-!
# A directory with hard links

A name refers to a file, and several names may refer to one file.
-/

namespace CloudRing.Library

structure Directory (Name File : Type) where
  entry : Name → Option File
  content : File → List UInt8

namespace Directory

variable {Name File : Type}

section Names

variable [DecidableEq Name] (directory : Directory Name File)

def assign (name : Name) (file : Option File) : Directory Name File :=
  { directory with entry := fun other => if other = name then file else directory.entry other }

def link (old new : Name) : Option (Directory Name File) :=
  match directory.entry old, directory.entry new with
  | some file, none => some (directory.assign new (some file))
  | _, _ => none

@[simp] theorem assign_entry (name : Name) (file : Option File) (other : Name) :
    (directory.assign name file).entry other =
      if other = name then file else directory.entry other := rfl

@[simp] theorem assign_content (name : Name) (file : Option File) :
    (directory.assign name file).content = directory.content := rfl

theorem link_eq_some {directory : Directory Name File} {old new : Name}
    {next : Directory Name File} (linked : directory.link old new = some next) :
    ∃ file, directory.entry old = some file ∧ directory.entry new = none ∧
      next = directory.assign new (some file) := by
  unfold link at linked
  split at linked
  · rename_i file source free
    exact ⟨file, source, free, (Option.some.inj linked).symm⟩
  · contradiction

end Names

section Files

variable [DecidableEq File] (directory : Directory Name File)

def write (file : File) (bytes : List UInt8) : Directory Name File :=
  { directory with
    content := fun other => if other = file then bytes else directory.content other }

@[simp] theorem write_entry (file : File) (bytes : List UInt8) :
    (directory.write file bytes).entry = directory.entry := rfl

@[simp] theorem write_content (file : File) (bytes : List UInt8) (other : File) :
    (directory.write file bytes).content other =
      if other = file then bytes else directory.content other := rfl

def create [DecidableEq Name] (name : Name) (file : File) : Option (Directory Name File) :=
  match directory.entry name with
  | some _ => none
  | none => some ((directory.assign name (some file)).write file [])

theorem create_eq_some [DecidableEq Name] {directory : Directory Name File} {name : Name}
    {file : File} {next : Directory Name File}
    (created : directory.create name file = some next) :
    directory.entry name = none ∧ next = (directory.assign name (some file)).write file [] := by
  unfold create at created
  split at created
  · contradiction
  · rename_i free
    exact ⟨free, (Option.some.inj created).symm⟩

end Files

end Directory

end CloudRing.Library
