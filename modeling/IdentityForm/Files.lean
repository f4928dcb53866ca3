import IdentityForm.Role

/-! # Slots for files

The files of an entry by their roles: two lists and three places for a single file. The same slots
hold what is committed and what is being edited.
-/

namespace IdentityForm

/-- One place for a file: a role and, in a list, a position. A special role ignores the position. -/
structure Slot where
  role : Role
  index : Option Nat
  deriving DecidableEq, Repr

structure Files (α : Type) where
  scans : List α
  renditions : List α
  frontSide : Option α
  reverseSide : Option α
  selfie : Option α
  deriving DecidableEq, Repr

namespace Files

variable {α β : Type}

def empty : Files α := ⟨[], [], none, none, none⟩

instance : Inhabited (Files α) := ⟨empty⟩

/-- All files: scans, renditions, front side, reverse side, selfie. -/
def toList (f : Files α) : List α :=
  f.scans ++ (f.renditions ++ (f.frontSide.toList ++ (f.reverseSide.toList ++ f.selfie.toList)))

/-- The files of one role. -/
def ofRole (f : Files α) : Role → List α
  | .scan => f.scans
  | .rendition => f.renditions
  | .frontSide => f.frontSide.toList
  | .reverseSide => f.reverseSide.toList
  | .selfie => f.selfie.toList

def get? (f : Files α) (s : Slot) : Option α :=
  match s.role with
  | .scan => s.index.bind fun i => f.scans[i]?
  | .rendition => s.index.bind fun i => f.renditions[i]?
  | .frontSide => f.frontSide
  | .reverseSide => f.reverseSide
  | .selfie => f.selfie

/-- Changes the file in a slot, if there is one. -/
def modify (f : Files α) (s : Slot) (change : α → α) : Files α :=
  match s.role with
  | .scan =>
    match s.index with
    | some i => { f with scans := f.scans.modify i change }
    | none => f
  | .rendition =>
    match s.index with
    | some i => { f with renditions := f.renditions.modify i change }
    | none => f
  | .frontSide => { f with frontSide := f.frontSide.map change }
  | .reverseSide => { f with reverseSide := f.reverseSide.map change }
  | .selfie => { f with selfie := f.selfie.map change }

def map (f : Files α) (g : α → β) : Files β :=
  ⟨f.scans.map g, f.renditions.map g, f.frontSide.map g, f.reverseSide.map g, f.selfie.map g⟩

/-- Adds a file: at the end of a list, or in the place of a special role. -/
def add (f : Files α) (role : Role) (a : α) : Files α :=
  match role with
  | .scan => { f with scans := f.scans ++ [a] }
  | .rendition => { f with renditions := f.renditions ++ [a] }
  | .frontSide => { f with frontSide := some a }
  | .reverseSide => { f with reverseSide := some a }
  | .selfie => { f with selfie := some a }

/-- The slot a file will get when it is added. -/
def nextSlot (f : Files α) (role : Role) : Slot :=
  match role with
  | .scan => ⟨role, some f.scans.length⟩
  | .rendition => ⟨role, some f.renditions.length⟩
  | _ => ⟨role, none⟩

/-- The slots that are filled in either of two sets of files. -/
def slots (f : Files α) (g : Files β) : List Slot :=
  (List.range (max f.scans.length g.scans.length)).map (fun i => ⟨.scan, some i⟩) ++
    ((List.range (max f.renditions.length g.renditions.length)).map
        (fun i => ⟨.rendition, some i⟩) ++
      [Role.frontSide, .reverseSide, .selfie].filterMap fun role =>
        if (f.ofRole role).isEmpty && (g.ofRole role).isEmpty then none else some ⟨role, none⟩)

end Files

end IdentityForm
