import KairosExecution.Interactive.Program

/-! What a program owes before each call. A duty relates the events so far to the
call about to be issued; a program is safe when every call it can issue, whatever
the answers were, meets the duty. The rules follow the shape of the program: one
for a call, one for a check, one for sequencing, one for a handled exception. A
program all of whose calls are harmless needs no proof but the list of its calls. -/

namespace Interactive

variable {I : Interface} {ε α β : Type}

/-- `p`, started after `h`, issues only calls that meet `duty` and ends in `post`. -/
def Safe (duty : History I ε → I.Call → Prop) (post : Except ε α → History I ε → Prop) :
    Program I ε α → History I ε → Prop
  | .done r, h => post r h
  | .call c next, h => duty h c ∧ ∀ r, Safe duty post (next r) (⟨c, some r⟩ :: h)

/-- Every event of the history met the duty when its call was issued. -/
def Dutiful (duty : History I ε → I.Call → Prop) : History I ε → Prop
  | [] => True
  | e :: h => duty h e.call ∧ Dutiful duty h

variable {duty : History I ε → I.Call → Prop}

theorem Dutiful.at {h : History I ε} (d : Dutiful duty h) {l k : History I ε} {e : Event I ε}
    (eq : h = l ++ e :: k) : duty k e.call := by
  induction l generalizing h with
  | nil => subst eq; exact d.1
  | cons x l ih => subst eq; exact ih d.2 rfl

theorem Dutiful.mono {duty' : History I ε → I.Call → Prop} {h : History I ε} (d : Dutiful duty h)
    (le : ∀ k c, duty k c → duty' k c) : Dutiful duty' h := by
  induction h with
  | nil => trivial
  | cons e h ih => exact ⟨le h e.call d.1, ih d.2⟩

theorem Safe.mono {post post' : Except ε α → History I ε → Prop} {p : Program I ε α}
    {h : History I ε} (s : Safe duty post p h) (le : ∀ r h', h <:+ h' → post r h' → post' r h') :
    Safe duty post' p h := by
  induction p generalizing h with
  | done r => exact le r h (List.suffix_refl _) s
  | call c next ih =>
    exact ⟨s.1, fun r => ih r (s.2 r) fun r' h' hs => le r' h' ((List.suffix_cons _ _).trans hs)⟩

theorem Safe.bind {p : Program I ε α} {f : α → Program I ε β} {h : History I ε}
    {post : Except ε β → History I ε → Prop}
    (s : Safe duty (fun r h' => match r with
      | .ok a => Safe duty post (f a) h'
      | .error e => post (.error e) h') p h) : Safe duty post (p >>= f) h := by
  induction p generalizing h with
  | done r => cases r <;> exact s
  | call c next ih => exact ⟨s.1, fun r => ih r (s.2 r)⟩

theorem Safe.attempt {p : Program I ε α} {h : History I ε}
    {post : Except ε (Except ε α) → History I ε → Prop}
    (s : Safe duty (fun r h' => post (.ok r) h') p h) : Safe duty post p.attempt h := by
  induction p generalizing h with
  | done r => exact s
  | call c next ih => exact ⟨s.1, fun r => ih r (s.2 r)⟩

/-- What holds of every later history is no matter of the program. -/
theorem Safe.of_post {post : Except ε α → History I ε → Prop} {p : Program I ε α} {h : History I ε}
    (free : ∀ k c, duty k c) (holds : ∀ r h', h <:+ h' → post r h') : Safe duty post p h := by
  induction p generalizing h with
  | done r => exact holds r h (List.suffix_refl _)
  | call c next ih =>
    exact ⟨free h c, fun r => ih r fun r' h' older =>
      holds r' h' ((List.suffix_cons _ _).trans older)⟩

/-- A sequence, by what its first part ends in. -/
theorem Safe.seq {p : Program I ε α} {f : α → Program I ε β} {h : History I ε}
    {middle : Except ε α → History I ε → Prop} {post : Except ε β → History I ε → Prop}
    (first : Safe duty middle p h)
    (rest : ∀ a h', h <:+ h' → middle (.ok a) h' → Safe duty post (f a) h')
    (raised : ∀ e h', h <:+ h' → middle (.error e) h' → post (.error e) h') :
    Safe duty post (p >>= f) h := by
  apply Safe.bind
  apply first.mono
  intro r h' older ended
  cases r with
  | ok a => exact rest a h' older ended
  | error e => exact raised e h' older ended

/-- A handled program, by what it ends in. -/
theorem Safe.handled {p : Program I ε α} {f : Except ε α → Program I ε β} {h : History I ε}
    {middle : Except ε α → History I ε → Prop} {post : Except ε β → History I ε → Prop}
    (first : Safe duty middle p h)
    (rest : ∀ r h', h <:+ h' → middle r h' → Safe duty post (f r) h') :
    Safe duty post (p.attempt >>= f) h := by
  apply Safe.bind
  apply Safe.attempt
  exact first.mono rest

theorem Safe.ask_bind {c : I.Call} {f : I.Answer c → Program I ε β} {h : History I ε}
    {post : Except ε β → History I ε → Prop} (d : duty h c)
    (answered : ∀ a, Safe duty post (f a) (⟨c, some (.ok a)⟩ :: h))
    (raised : ∀ e, post (.error e) (⟨c, some (.error e)⟩ :: h)) :
    Safe duty post (Program.ask c >>= f) h :=
  ⟨d, fun r => match r with
    | .ok a => answered a
    | .error e => raised e⟩

theorem Safe.lift_bind {x : Except ε α} {f : α → Program I ε β} {h : History I ε}
    {post : Except ε β → History I ε → Prop} (ok : ∀ a, x = .ok a → Safe duty post (f a) h)
    (raised : ∀ e, x = .error e → post (.error e) h) :
    Safe duty post ((liftM x : Program I ε α) >>= f) h := by
  cases x with
  | ok a => exact ok a rfl
  | error e => exact raised e rfl

theorem Safe.map {p : Program I ε α} {g : α → β} {h : History I ε} {post : Except ε β → History I ε → Prop}
    (s : Safe duty (fun r h' => post (g <$> r) h') p h) : Safe duty post (g <$> p) h := by
  rw [map_eq_pure_bind]
  exact s.seq (fun _ _ _ ended => ended) fun _ _ _ ended => ended

/-- A safe program's runs are dutiful and end in its postcondition. -/
theorem Safe.sound {post : Except ε α → History I ε → Prop} {p : Program I ε α}
    {h h' : History I ε} {o : Option (Except ε α)} (s : Safe duty post p h)
    (run : Runs p h h' o) (d : Dutiful duty h) :
    Dutiful duty h' ∧ ∀ r, o = some r → post r h' := by
  induction run with
  | done r h => exact ⟨d, fun r' eq => by cases eq; exact s⟩
  | stopped => exact ⟨d, fun _ eq => nomatch eq⟩
  | lost => exact ⟨⟨s.1, d⟩, fun _ eq => nomatch eq⟩
  | answered c next h h' r o _ ih => exact ih (s.2 r) ⟨s.1, d⟩

/-- `p`, started after `h`, meets the duty, and where it returns normally `Q` holds
of its value and the events by then. Nothing is promised where it raises. -/
def Meets (duty : History I ε → I.Call → Prop) (p : Program I ε α) (h : History I ε)
    (Q : α → History I ε → Prop) : Prop :=
  Safe duty (fun r h' => ∀ a, r = .ok a → Q a h') p h

namespace Meets

variable {p : Program I ε α} {f : α → Program I ε β} {h : History I ε}
  {Q : α → History I ε → Prop} {R : β → History I ε → Prop}

theorem mono {Q' : α → History I ε → Prop} (m : Meets duty p h Q)
    (le : ∀ a h', h <:+ h' → Q a h' → Q' a h') : Meets duty p h Q' :=
  Safe.mono m fun _ _ hs q a eq => le a _ hs (q a eq)

theorem pure {a : α} (q : Q a h) : Meets duty (pure a) h Q := fun _ eq => by
  cases eq; exact q

theorem raise {e : ε} : Meets duty (Program.raise e) h Q := fun _ eq => nomatch eq

theorem ask {c : I.Call} {Q : I.Answer c → History I ε → Prop} (d : duty h c)
    (q : ∀ a, Q a (⟨c, some (.ok a)⟩ :: h)) : Meets duty (Program.ask c) h Q :=
  ⟨d, fun _ a eq => by cases eq; exact q a⟩

theorem lift {x : Except ε α} (q : ∀ a, x = .ok a → Q a h) :
    Meets duty (liftM x : Program I ε α) h Q := fun a eq => q a eq

theorem bind (m : Meets duty p h Q)
    (k : ∀ a h', h <:+ h' → Q a h' → Meets duty (f a) h' R) : Meets duty (p >>= f) h R := by
  refine Safe.bind (Safe.mono m fun r h' hs q => ?_)
  cases r with
  | ok a => exact k a h' hs (q a rfl)
  | error e => exact fun _ eq => nomatch eq

theorem map {g : α → β} (m : Meets duty p h fun a h' => R (g a) h') : Meets duty (g <$> p) h R := by
  rw [map_eq_pure_bind]
  exact bind m fun _ _ _ q => pure q

theorem of_map {g : α → β} (m : Meets duty (g <$> p) h R) : Meets duty p h fun a h' => R (g a) h' := by
  rw [map_eq_pure_bind] at m
  induction p generalizing h with
  | done r =>
    cases r with
    | ok a => exact fun b eq => Except.ok.inj eq ▸ m (g a) rfl
    | error e => exact fun _ eq => nomatch eq
  | call c next ih => exact ⟨m.1, fun r => ih r (m.2 r)⟩

theorem ask_bind {c : I.Call} {f : I.Answer c → Program I ε β} (d : duty h c)
    (k : ∀ a, Meets duty (f a) (⟨c, some (.ok a)⟩ :: h) R) :
    Meets duty (Program.ask c >>= f) h R :=
  ⟨d, fun r => match r with
    | .ok a => k a
    | .error _ => fun _ eq => nomatch eq⟩

theorem lift_bind {x : Except ε α} (k : ∀ a, x = .ok a → Meets duty (f a) h R) :
    Meets duty ((liftM x : Program I ε α) >>= f) h R := by
  cases x with
  | ok a => exact k a rfl
  | error e => exact fun _ eq => nomatch eq

/-- A handled exception leaves the history it was raised in; what was known before
the handled program started is still known there. -/
theorem attempt_bind {f : Except ε α → Program I ε β} (m : Meets duty p h Q)
    (ok : ∀ a h', h <:+ h' → Q a h' → Meets duty (f (.ok a)) h' R)
    (error : ∀ e h', h <:+ h' → Meets duty (f (.error e)) h' R) :
    Meets duty (p.attempt >>= f) h R := by
  refine Safe.bind (Safe.attempt (Safe.mono m fun r h' hs q => ?_))
  cases r with
  | ok a => exact ok a h' hs (q a rfl)
  | error e => exact error e h' hs

/-- What is known before a handled program starts is known after it, however it ends. -/
theorem attempt (m : Meets duty p h Q) {R : Except ε α → History I ε → Prop}
    (ok : ∀ a h', h <:+ h' → Q a h' → R (.ok a) h')
    (error : ∀ e h', h <:+ h' → R (.error e) h') : Meets duty p.attempt h R := by
  refine Safe.attempt (Safe.mono m fun r h' hs q => ?_)
  cases r with
  | ok a => exact fun _ eq => by cases eq; exact ok a h' hs (q a rfl)
  | error e => exact fun _ eq => by cases eq; exact error e h' hs

theorem onlyIf_bind {condition : Prop} [Decidable condition] {body : Program I ε Unit}
    {f : Unit → Program I ε β} {P : History I ε → Prop}
    (m : condition → Meets duty body h fun _ => P) (skip : ¬condition → P h)
    (k : ∀ h', h <:+ h' → P h' → Meets duty (f ()) h' R) :
    Meets duty (Program.onlyIf condition body >>= f) h R := by
  unfold Program.onlyIf
  split
  · exact bind (m ‹_›) fun _ h' hs q => k h' hs q
  · exact k h (List.suffix_refl _) (skip ‹_›)

/-- A bracketed body runs after its `enter`; what it promises must survive `leave`. -/
theorem bracket {enter leave : Program I ε Unit} {P : History I ε → Prop}
    {Q' : α → History I ε → Prop} (e : Meets duty enter h fun _ => P)
    (m : ∀ h', h <:+ h' → P h' → Meets duty p h' Q)
    (l : ∀ (r : Except ε α) h', h <:+ h' → (∀ a, r = .ok a → Q a h') →
      Meets duty leave h' fun _ h'' => ∀ a, r = .ok a → Q' a h'') :
    Meets duty (Program.bracket enter leave p) h Q' := by
  refine bind e fun _ h₁ hs₁ hp => ?_
  refine bind (attempt (m h₁ hs₁ hp) (R := fun r h' => h₁ <:+ h' ∧ ∀ a, r = .ok a → Q a h')
    (fun a h' hs q => ⟨hs, fun _ eq => by cases eq; exact q⟩)
    (fun e h' hs => ⟨hs, fun _ eq => nomatch eq⟩)) fun r h₂ _ hr => ?_
  exact bind (l r h₂ (hs₁.trans hr.1) hr.2) fun _ _ _ q => lift q

theorem sound {h' : History I ε} {o : Option (Except ε α)} (m : Meets duty p h Q)
    (run : Runs p h h' o) (d : Dutiful duty h) :
    Dutiful duty h' ∧ ∀ a, o = some (.ok a) → Q a h' :=
  have s := Safe.sound m run d
  ⟨s.1, fun a eq => s.2 _ eq a rfl⟩

/-- Where the program returns, what it promises holds, whatever was owed before it. -/
theorem returns {h' : History I ε} {a : α} (m : Meets duty p h Q)
    (run : Runs p h h' (some (.ok a))) : Q a h' := by
  generalize eq : some (Except.ok a) = o at run
  induction run with
  | done r h => cases eq; exact m a rfl
  | stopped => cases eq
  | lost => cases eq
  | answered c next h h' r o _ ih => exact ih (m.2 r) eq

end Meets

/-- The later history adds only calls of `S` to the earlier one. -/
abbrev Adds (S : I.Call → Prop) (h h' : History I ε) : Prop :=
  ∃ t, h' = t ++ h ∧ ∀ e ∈ t, S e.call

namespace Adds

variable {S T : I.Call → Prop} {h h' h'' : History I ε}

theorem refl : Adds S h h := ⟨[], rfl, fun _ he => nomatch he⟩

theorem trans (a : Adds S h h') (b : Adds S h' h'') : Adds S h h'' := by
  obtain ⟨t, rfl, ht⟩ := a
  obtain ⟨u, rfl, hu⟩ := b
  refine ⟨u ++ t, (List.append_assoc u t h).symm, fun e he => ?_⟩
  rcases List.mem_append.1 he with he | he
  · exact hu e he
  · exact ht e he

theorem cons {e : Event I ε} (a : Adds S h h') (he : S e.call) : Adds S h (e :: h') :=
  a.trans ⟨[e], rfl, fun x hx => by cases List.mem_singleton.1 hx; exact he⟩

theorem mono (a : Adds S h h') (le : ∀ c, S c → T c) : Adds T h h' := by
  obtain ⟨t, eq, ht⟩ := a
  exact ⟨t, eq, fun e he => le _ (ht e he)⟩

end Adds

/-- Every call `p` can issue lies in `S`. -/
def Calls (S : I.Call → Prop) : Program I ε α → Prop
  | .done _ => True
  | .call c next => S c ∧ ∀ r, Calls S (next r)

namespace Calls

variable {S T : I.Call → Prop} {p : Program I ε α} {f : α → Program I ε β}

theorem mono (m : Calls S p) (le : ∀ c, S c → T c) : Calls T p := by
  induction p with
  | done => trivial
  | call c next ih => exact ⟨le c m.1, fun r => ih r (m.2 r)⟩

theorem pure {a : α} : Calls S (pure a : Program I ε α) := trivial

theorem raise {e : ε} : Calls S (Program.raise e : Program I ε α) := trivial

theorem lift {x : Except ε α} : Calls S (liftM x : Program I ε α) := trivial

theorem ask {c : I.Call} (m : S c) : Calls S (Program.ask c : Program I ε (I.Answer c)) :=
  ⟨m, fun _ => trivial⟩

theorem bind (m : Calls S p) (k : ∀ a, Calls S (f a)) : Calls S (p >>= f) := by
  induction p with
  | done r => cases r with
    | ok a => exact k a
    | error e => trivial
  | call c next ih => exact ⟨m.1, fun r => ih r (m.2 r)⟩

theorem map {g : α → β} (m : Calls S p) : Calls S (g <$> p) := by
  rw [map_eq_pure_bind]
  exact m.bind fun _ => .pure

theorem attempt (m : Calls S p) : Calls S p.attempt := by
  induction p with
  | done => trivial
  | call c next ih => exact ⟨m.1, fun r => ih r (m.2 r)⟩

theorem onlyIf {condition : Prop} [Decidable condition] {body : Program I ε Unit}
    (m : Calls S body) : Calls S (Program.onlyIf condition body) := by
  unfold Program.onlyIf
  split
  · exact m
  · exact .pure

theorem bracket {enter leave : Program I ε Unit} (e : Calls S enter) (l : Calls S leave)
    (m : Calls S p) : Calls S (Program.bracket enter leave p) :=
  .bind e fun _ => .bind (.attempt m) fun _ => .bind l fun _ => .lift

/-- Harmless calls meet any duty that asks nothing of them, and add only themselves. -/
theorem meets (m : Calls S p) (free : ∀ k c, S c → duty k c) (h : History I ε) :
    Meets duty p h fun _ h' => Adds S h h' := by
  induction p generalizing h with
  | done r => exact fun a _ => .refl
  | call c next ih =>
    refine ⟨free h c m.1, fun r => (ih r (m.2 r) _).mono fun a h' _ added => ?_⟩
    exact (Adds.refl.cons (e := ⟨c, some r⟩) m.1).trans added

end Calls

/-- However a run ends, it adds only calls of its program. -/
theorem Calls.adds {S : I.Call → Prop} {p : Program I ε α} (m : Calls S p) {h h' : History I ε}
    {o : Option (Except ε α)} (run : Runs p h h' o) : Adds S h h' := by
  induction run with
  | done => exact .refl
  | stopped => exact .refl
  | lost => exact Adds.refl.cons m.1
  | answered c next h h' r o _ ih =>
    exact (Adds.refl.cons (e := ⟨c, some r⟩) m.1).trans (ih (m.2 r))

/-- What a program promises may be joined with the list of the calls it can issue. -/
theorem Meets.frame {S : I.Call → Prop} {p : Program I ε α} {h : History I ε}
    {Q : α → History I ε → Prop} (m : Meets duty p h Q) (s : Calls S p) :
    Meets duty p h fun a h' => Q a h' ∧ Adds S h h' := by
  induction p generalizing h with
  | done r => exact fun a eq => ⟨m a eq, .refl⟩
  | call c next ih =>
    refine ⟨m.1, fun r => (ih r (m.2 r) (s.2 r)).mono fun a h' _ ⟨q, added⟩ => ?_⟩
    exact ⟨q, (Adds.refl.cons (e := ⟨c, some r⟩) s.1).trans added⟩

/-- The event lies in the history, and only calls of `S` were issued since. -/
def Since (S : I.Call → Prop) (e : Event I ε) (h : History I ε) : Prop :=
  ∃ l k, h = l ++ e :: k ∧ ∀ x ∈ l, S x.call

namespace Since

variable {S T : I.Call → Prop} {e : Event I ε} {h : History I ε}

theorem here : Since S e (e :: h) := ⟨[], h, rfl, fun _ hx => nomatch hx⟩

theorem mono (since : Since S e h) (le : ∀ c, S c → T c) : Since T e h := by
  obtain ⟨l, k, eq, hl⟩ := since
  exact ⟨l, k, eq, fun x hx => le _ (hl x hx)⟩

theorem append {t : History I ε} (since : Since S e h) (ht : ∀ x ∈ t, S x.call) :
    Since S e (t ++ h) := by
  obtain ⟨l, k, rfl, hl⟩ := since
  refine ⟨t ++ l, k, (List.append_assoc ..).symm, fun x hx => ?_⟩
  rcases List.mem_append.1 hx with hx | hx
  · exact ht x hx
  · exact hl x hx

theorem cons {x : Event I ε} (since : Since S e h) (hx : S x.call) : Since S e (x :: h) :=
  since.append (t := [x]) fun _ hy => by cases List.mem_singleton.1 hy; exact hx

end Since

/-- The latest event that `sel` picks from the history. -/
def latest {γ : Type} (sel : Event I ε → Option γ) (h : History I ε) : Option γ :=
  h.findSome? sel

theorem latest_append {γ : Type} {sel : Event I ε → Option γ} {t h : History I ε}
    (quiet : ∀ e ∈ t, sel e = none) : latest sel (t ++ h) = latest sel h := by
  rw [latest, List.findSome?_append, List.findSome?_eq_none_iff.2 quiet, Option.none_or, latest]

theorem latest_split {γ : Type} {sel : Event I ε → Option γ} {h : History I ε} {c : γ}
    (eq : latest sel h = some c) :
    ∃ l e k, h = l ++ e :: k ∧ sel e = some c ∧ ∀ x ∈ l, sel x = none := by
  obtain ⟨l, e, k, hs, he, hl⟩ := List.findSome?_eq_some_iff.1 eq
  exact ⟨l, e, k, hs, he, hl⟩

end Interactive
