import KairosExecution.Interactive.Law

/-! Sections under one lock, run one at a time. Others see the state that the section in
progress leaves between its calls and during them, and a crash may leave any of these. A
session is then a chain of whole sections, and the part of one more that has been run. -/

namespace Interactive

variable {I : Interface} {ε σ ι α : Type}

/-- What an environment does: what may be seen of it while a call is made, and what the answer
leaves. -/
structure Effects (I : Interface) (ε σ : Type) where
  during : σ → I.Call → σ → Prop
  after : σ → (c : I.Call) → Except ε (I.Answer c) → σ → Prop
  refl : ∀ s c, during s c s
  trans : ∀ s m s' c, during s c m → during m c s' → during s c s'

/-- The law of a section, with the events of all sections; a call that is not answered has been
made so far. -/
def Effects.law (E : Effects I ε σ) (x : History I ε × σ) (e : Event I ε) (x' : History I ε × σ) :
    Prop :=
  match e with
  | ⟨c, none⟩ => x'.1 = x.1 ∧ E.during x.2 c x'.2
  | ⟨c, some r⟩ => x'.1 = ⟨c, some r⟩ :: x.1 ∧ ∃ m, E.during x.2 c m ∧ E.after m c r x'.2

/-- The events so far and the state, and the section inside the lock with what is left of it. -/
structure Moment (I : Interface) (ε σ ι α : Type) where
  at_ : History I ε × σ
  inside : Option (ι × Program I ε α)

/-- How a session goes on. -/
inductive Moves (E : Effects I ε σ) (body : ι → Program I ε α) :
    Moment I ε σ ι α → Moment I ε σ ι α → Prop
  | enter (i : ι) (x : History I ε × σ) : Moves E body ⟨x, none⟩ ⟨x, some (i, body i)⟩
  | during {i : ι} {c : I.Call} {next : Except ε (I.Answer c) → Program I ε α}
      {h : History I ε} {s s' : σ} (seen : E.during s c s') :
      Moves E body ⟨(h, s), some (i, .call c next)⟩ ⟨(h, s'), some (i, .call c next)⟩
  | answered {i : ι} {c : I.Call} {next : Except ε (I.Answer c) → Program I ε α}
      {h : History I ε} {s s' : σ} {r : Except ε (I.Answer c)} (after : E.after s c r s') :
      Moves E body ⟨(h, s), some (i, .call c next)⟩ ⟨(⟨c, some r⟩ :: h, s'), some (i, next r)⟩
  | leave (i : ι) (r : Except ε α) (x : History I ε × σ) :
      Moves E body ⟨x, some (i, .done r)⟩ ⟨x, none⟩

/-- A session from one moment to another. -/
abbrev Session (E : Effects I ε σ) (body : ι → Program I ε α) :
    Moment I ε σ ι α → Moment I ε σ ι α → Prop :=
  Relation.ReflTransGen (Moves E body)

/-- Whole sections, one after the other, each of which visits its end. -/
abbrev Sections (rest : History I ε × σ → Prop)
    (visit : ι → History I ε × σ → History I ε × σ → Prop) :
    History I ε × σ → History I ε × σ → Prop :=
  Relation.ReflTransGen fun x x' => (∃ i, visit i x x') ∧ rest x'

namespace Session

variable {E : Effects I ε σ} {body : ι → Program I ε α} {rest : History I ε × σ → Prop}
  {visit : ι → History I ε × σ → History I ε × σ → Prop}

/-- Where a session is: at rest, or in a section that was entered at rest. -/
def Within (E : Effects I ε σ) (rest : History I ε × σ → Prop)
    (visit : ι → History I ε × σ → History I ε × σ → Prop) (x : History I ε × σ) :
    Moment I ε σ ι α → Prop
  | ⟨y, none⟩ => y = x
  | ⟨y, some (i, p)⟩ => visit i x y ∧ Upholds E.law (visit i x) (fun _ => rest) p y

/-- A session that starts at rest is a chain of sections and a part of one. -/
theorem sections
    (bodies : ∀ i x, rest x → Upholds E.law (visit i x) (fun _ => rest) (body i) x)
    {x : History I ε × σ} {m : Moment I ε σ ι α} (session : Session E body ⟨x, none⟩ m)
    (start : rest x) : ∃ y, Sections rest visit x y ∧ rest y ∧ Within E rest visit y m := by
  induction session with
  | refl => exact ⟨x, .refl, start, rfl⟩
  | tail _ moved ih =>
    obtain ⟨y, chain, still, within⟩ := ih
    cases moved with
    | enter i z =>
      cases within
      exact ⟨y, chain, still, (bodies i y still).now, bodies i y still⟩
    | during seen =>
      obtain ⟨-, holds, lost, answered⟩ := within
      refine ⟨y, chain, still, lost _ ⟨rfl, seen⟩, lost _ ⟨rfl, seen⟩, ?_, ?_⟩
      · rintro ⟨_, s'⟩ ⟨same, seen'⟩
        exact lost _ ⟨same, E.trans _ _ _ _ seen seen'⟩
      · rintro r ⟨_, s'⟩ ⟨same, m, seen', after⟩
        exact answered r _ ⟨same, m, E.trans _ _ _ _ seen seen', after⟩
    | @answered i c next h s s' r after =>
      obtain ⟨-, holds, lost, answered⟩ := within
      have next := answered r (⟨c, some r⟩ :: h, s') ⟨rfl, s, E.refl _ _, after⟩
      exact ⟨y, chain, still, next.now, next⟩
    | leave i r z =>
      obtain ⟨visited, -, still'⟩ := within
      exact ⟨z, chain.tail ⟨⟨i, visited⟩, still'⟩, still', rfl⟩

section Handled

variable {answer : Handler I ε σ} (lawful : ∀ s c, E.after s c (answer s c).1 (answer s c).2) (i : ι)
include lawful

/-- A handler whose answers leave what they may runs what is left of a section. -/
theorem execute_rest (p : Program I ε α) (s : σ) (h : History I ε) :
    Session E body ⟨(h, s), some (i, p)⟩
      ⟨((execute answer p s h).2.2, (execute answer p s h).2.1), none⟩ := by
  induction p generalizing s h with
  | done r => exact .single (.leave i r _)
  | call c next ih => exact .head (.answered (lawful s c)) (ih _ _ _)

theorem execute_section (s : σ) (h : History I ε) :
    Session E body ⟨(h, s), none⟩
      ⟨((execute answer (body i) s h).2.2, (execute answer (body i) s h).2.1), none⟩ :=
  .head (.enter i (h, s)) (execute_rest lawful i (body i) s h)

end Handled

end Session

end Interactive
