/-!
# Notes

Work on a site is reported as it goes: a directive that makes no sense or a file that cannot be read
is noted, and the work carries on. A `Noted` value is a result with the notes made on the way to it,
in order. A `Report` is a result that may instead be a failure; the notes made before the failure
stay.
-/

set_option autoImplicit false

namespace StaticSite

/-- A value with the notes made on the way to it. -/
structure Noted (ν α : Type) where
  value : α
  notes : List ν := []
deriving Repr

namespace Noted

variable {ν μ α β : Type}

instance : Monad (Noted ν) where
  pure value := { value := value }
  bind x f :=
    let y := f x.value
    { value := y.value, notes := x.notes ++ y.notes }

/-- Makes a note. -/
def note (n : ν) : Noted ν Unit :=
  { value := (), notes := [n] }

/-- The same value with the notes put in other words. -/
def mapNotes (f : ν → μ) (x : Noted ν α) : Noted μ α :=
  { value := x.value, notes := x.notes.map f }

@[simp] theorem value_pure (a : α) : (pure a : Noted ν α).value = a := rfl

@[simp] theorem notes_pure (a : α) : (pure a : Noted ν α).notes = [] := rfl

@[simp] theorem value_bind (x : Noted ν α) (f : α → Noted ν β) :
    (x >>= f).value = (f x.value).value := rfl

@[simp] theorem notes_bind (x : Noted ν α) (f : α → Noted ν β) :
    (x >>= f).notes = x.notes ++ (f x.value).notes := rfl

end Noted

/-- A value or a failure, with the notes made on the way to it. -/
abbrev Report (ν ε : Type) := ExceptT ε (Noted ν)

namespace Report

variable {ν μ ε δ α β : Type}

/-- A report without failure. -/
def ofNoted (x : Noted ν α) : Report ν ε α :=
  ExceptT.lift x

/-- A report without notes. -/
def ofExcept (x : Except ε α) : Report ν ε α :=
  ExceptT.mk { value := x }

/-- Makes a note. -/
def note (n : ν) : Report ν ε Unit :=
  ofNoted (Noted.note n)

/-- The same report with notes and failure put in other words. -/
def map (f : ν → μ) (g : ε → δ) (x : Report ν ε α) : Report μ δ α :=
  let noted : Noted ν (Except ε α) := x
  ExceptT.mk { value := noted.value.mapError g, notes := noted.notes.map f }

/-- What came of the work. -/
def outcome (x : Report ν ε α) : Except ε α :=
  Noted.value (ν := ν) x.run

/-- The notes made, in order. -/
def notes (x : Report ν ε α) : List ν :=
  Noted.notes (ν := ν) x.run

@[simp] theorem outcome_pure (a : α) : (pure a : Report ν ε α).outcome = .ok a := rfl

@[simp] theorem outcome_throw (e : ε) : (throw e : Report ν ε α).outcome = .error e := rfl

@[simp] theorem outcome_ofNoted (x : Noted ν α) :
    (ofNoted x : Report ν ε α).outcome = .ok x.value := rfl

@[simp] theorem outcome_ofExcept (x : Except ε α) :
    (ofExcept x : Report ν ε α).outcome = x := rfl

@[simp] theorem outcome_note (n : ν) : (note n : Report ν ε Unit).outcome = .ok () := rfl

@[simp] theorem outcome_map (f : ν → μ) (g : ε → δ) (x : Report ν ε α) :
    (x.map f g).outcome = x.outcome.mapError g := rfl

/-- What comes of two pieces of work, one after the other. -/
@[simp] theorem outcome_bind (x : Report ν ε α) (f : α → Report ν ε β) :
    (x >>= f).outcome = x.outcome.bind fun a => (f a).outcome := by
  show Noted.value (ExceptT.bindCont f (Noted.value x.run)) = _
  cases h : x.outcome with
  | ok a =>
      have hv : Noted.value x.run = .ok a := h
      rw [hv]
      rfl
  | error e =>
      have hv : Noted.value x.run = .error e := h
      rw [hv]
      rfl

end Report

end StaticSite
