/-!
# Operations that may fail

How an operation on a state that may fail runs: what a failed operation did before stays done.
-/

namespace BranchingStory

namespace Operation

variable {ε ε' σ α β : Type}

/-! ### Outcomes -/

/-- Errors of another kind leave what succeeds. -/
theorem mapError_eq_ok_iff {f : ε → ε'} {r : Except ε α} {a : α} :
  r.mapError f = .ok a ↔ r = .ok a
  := by
  cases r with
  | error e =>
      constructor
      · intro h
        cases h
      · intro h
        cases h
  | ok b =>
      constructor
      · intro h
        rw [Except.ok.inj h]
      · intro h
        rw [Except.ok.inj h]
        rfl

/-- Two steps give something when the first one does, and the second one from what that gave. -/
theorem bind_eq_ok_iff {r : Except ε α} {f : α → Except ε β} {b : β} :
  r >>= f = .ok b ↔ ∃ a, r = .ok a ∧ f a = .ok b
  := by
  cases r <;> simp [bind, Except.bind]

/-! ### Operations on a state -/

/-- The outcome of an operation on a state, and the state afterwards. -/
def run (x : ExceptT ε (StateM σ) α) (s : σ) : Except ε α × σ :=
  ExceptT.run x s

variable {x : ExceptT ε (StateM σ) α} {f : α → ExceptT ε (StateM σ) β} {s s' : σ} {a : α} {e : ε}

/-- An operation that only gives a value leaves the state. -/
@[simp]
theorem run_pure (a : α) (s : σ) :
  run (pure a : ExceptT ε (StateM σ) α) s = (.ok a, s)
  := rfl

/-- An operation may give the state that it finds. -/
@[simp]
theorem run_get (s : σ) :
  run (get : ExceptT ε (StateM σ) σ) s = (.ok s, s)
  := rfl

/-- An operation may put another state in the place of the one that it finds. -/
@[simp]
theorem run_set (s s' : σ) :
  run (set s' : ExceptT ε (StateM σ) PUnit) s = (.ok ⟨⟩, s')
  := rfl

/-- What follows an operation runs in the state behind it, unless the operation failed. -/
theorem run_bind (x : ExceptT ε (StateM σ) α) (f : α → ExceptT ε (StateM σ) β) (s : σ) :
  run (x >>= f) s = ExceptT.bindCont f (run x s).1 (run x s).2
  := rfl

/-- An operation goes on with what the one before it gave. -/
theorem run_bind_ok (h : run x s = (.ok a, s')) :
  run (x >>= f) s = run (f a) s'
  := by
  rw [run_bind, h]
  rfl

/-- A failure ends an operation. -/
theorem run_bind_error (h : run x s = (.error e, s')) :
  run (x >>= f) s = (.error e, s')
  := by
  rw [run_bind, h]
  rfl

/-- What an operation gives may be changed behind it. -/
theorem run_map (g : α → β) (x : ExceptT ε (StateM σ) α) (s : σ) :
  run (g <$> x) s = ((run x s).1.map g, (run x s).2)
  := by
  have hmap : run (g <$> x) s = run (x >>= fun a => pure (g a)) s := rfl
  rw [hmap, run_bind]
  cases run x s with
  | mk outcome s' =>
      cases outcome with
      | error e => rfl
      | ok a => rfl

/-- An operation that does not fail gives something. -/
theorem exists_of_isOk (h : (run x s).1.isOk = true) :
  ∃ a s', run x s = (.ok a, s')
  := by
  cases hr : run x s with
  | mk outcome s' =>
      cases outcome with
      | error e =>
          rw [hr] at h
          cases h
      | ok a => exact ⟨a, s', rfl⟩

/-- What holds behind an operation that may fail holds behind the rest too, if the rest keeps it. -/
theorem snd_run_bind {P : σ → Prop} (hx : P (run x s).2)
    (hf : ∀ a s', run x s = (.ok a, s') → P (run (f a) s').2) :
  P (run (x >>= f) s).2
  := by
  cases ho : run x s with
  | mk outcome s' =>
      cases outcome with
      | error e =>
          rw [run_bind_error ho]
          rwa [ho] at hx
      | ok a =>
          rw [run_bind_ok ho]
          apply hf a s' ho

/-! ### Operations that only read -/

/-- An operation that leaves the state. -/
def Reads (x : ExceptT ε (StateM σ) α) : Prop :=
  ∀ s, (run x s).2 = s

theorem reads_pure (a : α) :
  Reads (pure a : ExceptT ε (StateM σ) α)
  := fun _ => rfl

theorem reads_throw (e : ε) :
  Reads (throw e : ExceptT ε (StateM σ) α)
  := fun _ => rfl

theorem reads_get :
  Reads (get : ExceptT ε (StateM σ) σ)
  := fun _ => rfl

/-- Operations that only read one after another only read. -/
theorem Reads.bind (hx : Reads x) (hf : ∀ a, Reads (f a)) :
  Reads (x >>= f)
  := by
  intro s
  have hs := hx s
  cases hr : run x s with
  | mk outcome s' =>
      rw [hr] at hs
      obtain rfl : s' = s := hs
      cases outcome with
      | error e => rw [run_bind_error hr]
      | ok a =>
          rw [run_bind_ok hr]
          apply hf a

/-- What holds of a state holds behind an operation that starts with reading, if it holds behind
the rest whatever was read. -/
theorem Reads.run_bind {P : σ → Prop} (hx : Reads x) (hs : P s)
    (hf : ∀ a, run x s = (.ok a, s) → P (run (f a) s).2) :
  P (run (x >>= f) s).2
  := by
  have hr : (run x s).2 = s := hx s
  apply snd_run_bind
  · rwa [hr]
  · intro a s' ha
    obtain rfl : s' = s := by rw [← hr, ha]
    apply hf a ha

/-- What an operation that ends with reading leaves. -/
theorem run_bind_reads (hf : ∀ a, Reads (f a)) (s : σ) :
  (run (x >>= f) s).2 = (run x s).2
  := by
  cases hr : run x s with
  | mk outcome s' =>
      cases outcome with
      | error e => rw [run_bind_error hr]
      | ok a =>
          rw [run_bind_ok hr]
          apply hf a

end Operation

end BranchingStory
