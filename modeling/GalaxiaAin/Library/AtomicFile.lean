import Mathlib.Data.List.Infix

/-! A file that is replaced by writing another one and renaming it. A crash leaves a part of
what was being written, and a rename is done or not. -/
namespace GalaxiaAin.Library

structure Disk (β : Type) where
  file : Option (List β)
  tmp : Option (List β)

inductive FileOp (β : Type) where
  | writeTmp (content : List β)
  | renameTmp

variable {β : Type}

namespace Disk

def run (d : Disk β) : FileOp β → Disk β
  | .writeTmp content => { d with tmp := some content }
  | .renameTmp => { file := d.tmp, tmp := none }

/-- A disk on which operations were stopped: before one of them, within a write, or after all. -/
inductive Stopped : List (FileOp β) → Disk β → Disk β → Prop
  | here (ops : List (FileOp β)) (d : Disk β) : Stopped ops d d
  | within (content part : List β) (ops : List (FileOp β)) (d : Disk β) (h : part <+: content) :
      Stopped (.writeTmp content :: ops) d { d with tmp := some part }
  | later (op : FileOp β) (ops : List (FileOp β)) (d d' : Disk β) (h : Stopped ops (d.run op) d') : Stopped (op :: ops) d d'

end Disk

/-- Replace the file. -/
def replaceFile (content : List β) : List (FileOp β) := [.writeTmp content, .renameTmp]

theorem replaceFile_run (content : List β) (d : Disk β) : (replaceFile content).foldl Disk.run d = ⟨some content, none⟩ := rfl

/-- A replacement that is stopped leaves the file as it was or as it is to be. -/
theorem replaceFile_stopped {content : List β} {d d' : Disk β} (h : Disk.Stopped (replaceFile content) d d') :
    d'.file = d.file ∨ d'.file = some content := by
  cases h with
  | here => exact .inl rfl
  | within => exact .inl rfl
  | later _ _ _ _ h =>
    cases h with
    | here => exact .inl rfl
    | later _ _ _ _ h =>
      cases h with
      | here => exact .inr rfl

end GalaxiaAin.Library
