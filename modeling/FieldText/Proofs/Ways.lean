import FieldText.Proofs.Refusals

/-!
What binding depends on.  A value is bound on the way to it, in a registry, and with room for a given depth.
The way makes a difference only to values that are on it, the registry only to values that may be bound along
with this one, and the room makes none at all, as long as it is enough.

A preparation is known by what it does with the values that it asks for, so it may have any of those bound
that it asks for in one case or another.  Its effect depends on nothing else.
-/

namespace FieldText

/-! ## What may be bound along with a value -/

namespace Preparation

/-- A value that is asked for, if what was asked for before turns out in a certain way. -/
def MayAsk (inner : Value) : Preparation → Prop
  | ready _ => False
  | failed _ => False
  | bind value next => value = inner ∨ ∃ outcome, (next outcome).MayAsk inner

/-- It only matters what becomes of the values that may be asked for. -/
theorem outcome_congr {answers others : Value → Except Fault Renderer} {preparation : Preparation}
    (same : ∀ inner, preparation.MayAsk inner → answers inner = others inner) :
    preparation.outcome answers = preparation.outcome others := by
  induction preparation with
  | ready effect => rfl
  | failed fault => rfl
  | bind value next inductionHypothesis =>
      rw [outcome, outcome, same value (Or.inl rfl)]
      exact inductionHypothesis _ fun inner asks => same inner (Or.inr ⟨_, asks⟩)

end Preparation

/-- Two answers that differ at most in the sequence provider that goes through a value. -/
def Resolution.IsAlike (first second : Option Resolution) : Prop :=
  first = second ∨ ∃ guard other,
    first = some (.provider (.sequence guard)) ∧ second = some (.provider (.sequence other))

namespace Value

variable (heap : Heap) (answer : ArgumentType → Option Resolution)

/-- To bind a value is to bind its elements, or it may be to bind what its provider asks for. -/
def MayBind (outer inner : Value) : Prop :=
  LeadsTo heap answer outer inner ∨ ∃ provider,
    answer (heap.typeOf outer) = some (.provider (.custom provider)) ∧
      (provider.preparation heap outer).MayAsk inner

/-- A value, and all that may be bound along with it. -/
def MayReach : Value → Value → Prop := Relation.ReflTransGen (MayBind heap answer)

variable {heap answer}

theorem Reaches.mayReach {value inner : Value} (reaches : Reaches heap answer value inner) :
    MayReach heap answer value inner :=
  Relation.ReflTransGen.mono (fun _ _ => Or.inl) _ _ reaches

/-- As far as there are no providers of the user, values are bound along with others only on a walk. -/
theorem MayReach.reaches {value inner : Value} (mayReach : MayReach heap answer value inner)
    (notCustom : ∀ inner, Reaches heap answer value inner →
      ∀ provider, answer (heap.typeOf inner) ≠ some (.provider (.custom provider))) :
    Reaches heap answer value inner := by
  induction mayReach with
  | refl => exact .refl
  | tail _ binds reaches =>
      rcases binds with leads | ⟨provider, found, _⟩
      · exact reaches.tail leads
      · exact absurd found (notCustom _ reaches provider)

/-- There is no difference between two registries and between two ways to a value, as far as all that may be
bound along with the value is concerned.  It makes no difference which sequence provider goes through a
value. -/
structure SeesAlike (heap : Heap) (usual answer : ArgumentType → Option Resolution)
    (path other : List Identity) (value : Value) : Prop where
  alike : ∀ inner, MayReach heap answer value inner →
    Resolution.IsAlike (usual (heap.typeOf inner)) (answer (heap.typeOf inner))
  among : ∀ inner guard elements, MayReach heap answer value inner →
    answer (heap.typeOf inner) = some (.provider (.sequence guard)) → heap.elements? inner = some elements →
      inner.isAmong path = inner.isAmong other

variable {usual : ArgumentType → Option Resolution} {path other : List Identity} {value inner : Value}

theorem SeesAlike.asked (sees : SeesAlike heap usual answer path other value)
    (binds : MayBind heap answer value inner) : SeesAlike heap usual answer path other inner where
  alike deeper reaches := sees.alike deeper (.head binds reaches)
  among deeper guard elements reaches := sees.among deeper guard elements (.head binds reaches)

/-- A value that is put on both ways makes no difference either. -/
theorem SeesAlike.enter (sees : SeesAlike heap usual answer path other value)
    (leads : LeadsTo heap answer value inner) :
    SeesAlike heap usual answer (value.enter path) (value.enter other) inner where
  alike deeper reaches := sees.alike deeper (.head (Or.inl leads) reaches)
  among deeper guard elements reaches found opened := by
    rw [Value.enter, Value.enter, isAmong_append, isAmong_append,
      sees.among deeper guard elements (.head (Or.inl leads) reaches) found opened]

end Value

namespace Binding

variable {heap : Heap} {answer usual : ArgumentType → Option Resolution}
  {asked firstAsked secondAsked : List Identity → Value → Except Fault Renderer}

theorem mapM_eq_ok_iff_forall₂ {α β : Type} {make : α → Except Fault β} {inputs : List α}
    {outputs : List β} :
    inputs.mapM make = .ok outputs ↔
      List.Forall₂ (fun input output => make input = .ok output) inputs outputs := by
  constructor
  · exact forall₂_of_mapM_eq_ok
  · intro related
    induction related with
    | nil => rfl
    | cons first _ inductionHypothesis =>
        rw [List.mapM_cons, first, inductionHypothesis]
        rfl

theorem mapM_congr {α β : Type} {make other : α → Except Fault β} {inputs : List α}
    (same : ∀ input ∈ inputs, make input = other input) : inputs.mapM make = inputs.mapM other := by
  induction inputs with
  | nil => rfl
  | cons input inputs inductionHypothesis =>
      rw [List.forall_mem_cons] at same
      rw [List.mapM_cons, List.mapM_cons, same.1, inductionHypothesis same.2]

/-! ## The registry and the way -/

/-- Two ways of binding come to the same where there is no difference between the registries and the ways. -/
def BindsAlike (heap : Heap) (usual answer : ArgumentType → Option Resolution)
    (first second : List Identity → Value → Except Fault Renderer) : Prop :=
  ∀ path other value, Value.SeesAlike heap usual answer path other value → first path value = second other value

/-- One step of binding depends on what becomes of the elements and of what is asked for. -/
theorem plainStep_congr (alikeAsked : BindsAlike heap usual answer firstAsked secondAsked)
    {first second : List Identity → List Value → Except Fault (List Renderer)} {path other : List Identity}
    {value : Value} (sees : Value.SeesAlike heap usual answer path other value)
    (inside : ∀ guard elements, answer (heap.typeOf value) = some (.provider (.sequence guard)) →
      heap.elements? value = some elements →
        first (value.enter path) elements = second (value.enter other) elements) :
    plainStep heap usual firstAsked first path value = plainStep heap answer secondAsked second other value := by
  have goesThrough : ∀ guard, answer (heap.typeOf value) = some (.provider (.sequence guard)) →
      ∀ elements, heap.elements? value = some elements →
        (if value.isAmong path then Except.ok (Renderer.placeholder (heap.placeholder value))
          else (first (value.enter path) elements).map Renderer.sequence) =
        if value.isAmong other then Except.ok (Renderer.placeholder (heap.placeholder value))
          else (second (value.enter other) elements).map Renderer.sequence := by
    intro guard found elements opened
    rw [sees.among value guard elements .refl found opened, inside guard elements found opened]
  unfold plainStep
  rcases sees.alike value .refl with same | ⟨guard, otherGuard, foundUsual, found⟩
  · rw [same]
    cases found : answer (heap.typeOf value) with
    | none => rfl
    | some resolution =>
        cases resolution with
        | intrinsic => rfl
        | method method => rfl
        | provider provider =>
            cases provider with
            | scalar kind => rfl
            | custom provider =>
                exact Preparation.outcome_congr fun inner asks =>
                  alikeAsked path other inner (sees.asked (Or.inr ⟨provider, found, asks⟩))
            | sequence guard =>
                cases opened : heap.elements? value with
                | none => rfl
                | some elements => exact goesThrough guard found elements opened
  · rw [foundUsual, found]
    cases opened : heap.elements? value with
    | none => rfl
    | some elements => exact goesThrough otherGuard found elements opened

theorem bindsAlike_plainWithin (alikeAsked : BindsAlike heap usual answer firstAsked secondAsked) (room : Nat) :
    BindsAlike heap usual answer (plainWithin heap usual firstAsked room)
      (plainWithin heap answer secondAsked room) := by
  induction room with
  | zero => exact fun path other value sees => plainStep_congr alikeAsked sees fun _ _ _ _ => rfl
  | succ room inductionHypothesis =>
      intro path other value sees
      refine plainStep_congr alikeAsked sees fun guard elements found opened => ?_
      refine mapM_congr fun element member => inductionHypothesis _ _ element (sees.enter ?_)
      exact ⟨guard, elements, found, opened, member⟩

/-- However many preparations can be under way, a value is bound alike on two ways and in two registries, if
these do not differ in anything that may be bound along with it. -/
theorem bindsAlike_plainNested (heap : Heap) (usual answer : ArgumentType → Option Resolution)
    (room nesting : Nat) :
    BindsAlike heap usual answer (plainNested heap usual room nesting)
      (plainNested heap answer room nesting) := by
  induction nesting with
  | zero => exact fun _ _ _ _ => rfl
  | succ nesting inductionHypothesis => exact bindsAlike_plainWithin inductionHypothesis room

/-! ## The room -/

theorem plainStep_mono {first second : List Identity → List Value → Except Fault (List Renderer)}
    (inside : ∀ path elements renderers, first path elements = .ok renderers →
      second path elements = .ok renderers)
    {path : List Identity} {value : Value} {renderer : Renderer}
    (bound : plainStep heap answer asked first path value = .ok renderer) :
    plainStep heap answer asked second path value = .ok renderer := by
  unfold plainStep at bound ⊢
  split at bound
  · cases bound
  · exact bound
  · exact bound
  · exact bound
  · exact bound
  · split at bound
    · cases bound
    · split at bound
      · next among => simpa [among] using bound
      · next elements opened notAmong =>
          cases made : first (value.enter path) elements with
          | error fault => rw [made] at bound; cases bound
          | ok renderers =>
              rw [made] at bound
              simpa [notAmong, inside _ _ _ made] using bound

/-- What is bound in some room is bound in more. -/
theorem plainWithin_mono {room more : Nat} (le : room ≤ more) {path : List Identity} {value : Value}
    {renderer : Renderer} (bound : plainWithin heap answer asked room path value = .ok renderer) :
    plainWithin heap answer asked more path value = .ok renderer := by
  induction room generalizing more path value renderer with
  | zero =>
      rcases exists_plainWithin_eq heap answer asked more with ⟨plainElements, step⟩
      rw [step]
      exact plainStep_mono (fun _ _ _ made => by cases made) bound
  | succ room inductionHypothesis =>
      rcases Nat.exists_eq_succ_of_ne_zero (by omega : more ≠ 0) with ⟨more, rfl⟩
      refine plainStep_mono (fun path elements renderers made => ?_) bound
      rw [mapM_eq_ok_iff_forall₂] at made ⊢
      exact made.imp fun _ _ => inductionHypothesis (Nat.le_of_succ_le_succ le)

/-- The room makes a difference to faults only. -/
theorem plainWithin_eq_of_faultOf_eq {room other : Nat} {path : List Identity} {value : Value}
    (same : faultOf (plainWithin heap answer asked room path value) =
      faultOf (plainWithin heap answer asked other path value)) :
    plainWithin heap answer asked room path value = plainWithin heap answer asked other path value := by
  cases bound : plainWithin heap answer asked room path value with
  | error fault => exact (faultOf_eq_some_iff.mp (same.symm.trans (by rw [bound]; rfl))).symm
  | ok renderer =>
      cases boundOther : plainWithin heap answer asked other path value with
      | error fault =>
          rw [bound, boundOther] at same
          cases same
      | ok found =>
          have inMore := plainWithin_mono (Nat.le_max_left room other) bound
          exact inMore.symm.trans (plainWithin_mono (Nat.le_max_right room other) boundOther)

/-- It makes no difference how much room there is, as long as it is enough. -/
theorem plainWithin_eq_of_need_le {room enough : Nat} {path : List Identity} {value : Value}
    (need : value.need heap path ≤ room) (needs : value.need heap path ≤ enough) :
    plainWithin heap answer asked room path value = plainWithin heap answer asked enough path value :=
  plainWithin_eq_of_faultOf_eq ((faultOf_plainWithin path value need).trans
    (faultOf_plainWithin path value needs).symm)

/-- What is bound in some room is bound in every room that is enough. -/
theorem plainWithin_of_need_le {room enough : Nat} {path : List Identity} {value : Value}
    {renderer : Renderer} (bound : plainWithin heap answer asked room path value = .ok renderer)
    (need : value.need heap path ≤ enough) :
    plainWithin heap answer asked enough path value = .ok renderer := by
  rw [plainWithin_eq_of_need_le need ((Nat.le_max_right room _).trans' need)]
  exact plainWithin_mono (Nat.le_max_left room enough) bound

/-- Room for every container of a heap, and for a text in the innermost one. -/
def ample (heap : Heap) : Nat := heap.size + textDepth

theorem need_le_ample (path : List Identity) (value : Value) : value.need heap path ≤ ample heap :=
  (Value.need_le path value).trans (Nat.add_le_add_right (Value.remaining_le_size heap path) textDepth)

/-- The room that is given is as good as room for every container. -/
theorem plainWithin_depthBound (world : World) {registry : Registry}
    (remembers : registry.answer? world.hierarchy = Registry.lookup world.hierarchy registry.providers) :
    plainWithin world.heap (registry.answer? world.hierarchy) asked (depthBound world registry) =
      plainWithin world.heap (registry.answer? world.hierarchy) asked (ample world.heap) := by
  funext path value
  apply plainWithin_eq_of_faultOf_eq
  rw [faultOf_plainWithin_depthBound world remembers, faultOf_plainWithin path value (need_le_ample path value)]

end Binding
end FieldText
