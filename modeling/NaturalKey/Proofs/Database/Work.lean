import NaturalKey.Database.Opening

/-!
Work on a directory that a fault can end. Of most of it matters what it leads to whenever it ends
well, of some that it always does.
-/

set_option autoImplicit false

namespace NaturalKey.Database

variable {α β : Type} {P : Directory → Prop} {Q : α → Directory → Prop}

/-! ### What work leads to -/

/-- Whenever the work ends well after `P`, what it comes to and what it leaves are as `Q` says. -/
def Leads (P : Directory → Prop) (work : Opening α) (Q : α → Directory → Prop) : Prop :=
  ∀ before, P before → ∀ value after, work.run.run before = (.ok value, after) → Q value after

theorem leads_pure {value : α} (h : ∀ directory, P directory → Q value directory) :
    Leads P (pure value) Q := by
  intro before holds value after done
  cases done
  exact h before holds

theorem leads_throw (fault : DatabaseFault) : Leads P (throw fault : Opening α) Q := by
  intro before _ value after done
  cases done

theorem leads_modify {f : Directory → Directory} {Q : Unit → Directory → Prop}
    (h : ∀ directory, P directory → Q () (f directory)) : Leads P (modify f) Q := by
  intro before holds value after done
  cases done
  exact h before holds

theorem leads_get {Q : Directory → Directory → Prop}
    (h : ∀ directory, P directory → Q directory directory) : Leads P get Q := by
  intro before holds value after done
  cases done
  exact h before holds

theorem run_bind (work : Opening α) (next : α → Opening β) (before : Directory) :
    (work >>= next).run.run before = match work.run.run before with
      | (.ok value, middle) => (next value).run.run middle
      | (.error fault, middle) => (.error fault, middle) := by
  rw [ExceptT.run_bind, StateT.run_bind]
  rcases work.run.run before with ⟨fault | value, middle⟩ <;> rfl

theorem leads_bind {work : Opening α} {next : α → Opening β} {R : β → Directory → Prop}
    (first : Leads P work Q) (rest : ∀ value, Leads (Q value) (next value) R) :
    Leads P (work >>= next) R := by
  intro before holds result after done
  rw [run_bind] at done
  rcases ended : work.run.run before with ⟨fault | value, middle⟩
  · rw [ended] at done
    cases done
  · rw [ended] at done
    exact rest value middle (first before holds value middle ended) result after done

theorem leads_true {work : Opening α} : Leads P work fun _ _ => True :=
  fun _ _ _ _ _ => trivial

theorem leads_of_fact {fact : Prop} {work : Opening α} (h : fact → Leads P work Q) :
    Leads (fun directory => fact ∧ P directory) work Q :=
  fun before holds => h holds.1 before holds.2

theorem leads_of_only {fact : Prop} {work : Opening α}
    (h : fact → Leads (fun _ => True) work Q) : Leads (fun _ => fact) work Q :=
  fun before fact => h fact before trivial

theorem Leads.mono {work : Opening α} {Q' : α → Directory → Prop} (h : Leads P work Q)
    (weaker : ∀ value directory, Q value directory → Q' value directory) : Leads P work Q' :=
  fun before holds value after done => weaker value after (h before holds value after done)

theorem leads_forIn {items : List α} {body : α → Unit → Opening (ForInStep Unit)}
    (round : ∀ item ∈ items, Leads P (body item ()) fun _ => P) :
    Leads P (forIn items () body) fun _ => P := by
  induction items with
  | nil => exact leads_pure fun _ holds => holds
  | cons item items ih =>
    rw [List.forIn_cons]
    refine leads_bind (round item List.mem_cons_self) ?_
    rintro (_ | _)
    · exact leads_pure fun _ holds => holds
    · exact ih fun other member => round other (List.mem_cons_of_mem _ member)

/-! ### Work without faults -/

/-- The work ends well, whatever the directory is. -/
def EndsWell (work : Opening α) : Prop :=
  ∀ before, ∃ value after, work.run.run before = (.ok value, after)

theorem endsWell_pure (value : α) : EndsWell (pure value) :=
  fun before => ⟨value, before, rfl⟩

theorem endsWell_modify (f : Directory → Directory) : EndsWell (modify f) :=
  fun before => ⟨(), f before, rfl⟩

theorem endsWell_get : EndsWell get :=
  fun before => ⟨before, before, rfl⟩

theorem endsWell_bind {work : Opening α} {next : α → Opening β} (first : EndsWell work)
    (rest : ∀ value, EndsWell (next value)) : EndsWell (work >>= next) := by
  intro before
  obtain ⟨value, middle, ended⟩ := first before
  rw [run_bind, ended]
  exact rest value middle

theorem endsWell_forIn {items : List α} {body : α → Unit → Opening (ForInStep Unit)}
    (round : ∀ item, EndsWell (body item ())) : EndsWell (forIn items () body) := by
  induction items with
  | nil => exact endsWell_pure ()
  | cons item items ih =>
    rw [List.forIn_cons]
    refine endsWell_bind (round item) ?_
    rintro (_ | _)
    · exact endsWell_pure ()
    · exact ih

end NaturalKey.Database
