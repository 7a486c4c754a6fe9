/-!
# Patterns

Patterns that a text is searched for. A pattern tries its choices in their order, and
the first way in which all of it holds is the one that counts. Parts of it may be
marked, and what a search tells is where those parts lie. Main statement: a mark lies
within the text that was searched.
-/

namespace Reconcile.Text

/-- What characters in a row have to be. -/
inductive Pattern
  /-- One character of a class. -/
  | one (isIn : Char → Bool)
  /-- One pattern and then another. -/
  | seq (first second : Pattern)
  /-- One pattern or, where that does not do, another. -/
  | alt (first second : Pattern)
  /-- A pattern again and again, up to `most` times if that is given; as often as it
  can be with `isGreedy`, else as seldom. -/
  | many (isGreedy : Bool) (most : Option Nat) (body : Pattern)
  /-- A place between two characters. -/
  | between (holds : Option Char → Option Char → Bool)
  /-- A part that is marked. -/
  | marked (part : Pattern)

/-- How far a pattern has come in a text. -/
structure Reach where
  /-- The number of characters before. -/
  place : Nat
  /-- The last of them. -/
  previous : Option Char
  rest : List Char
  /-- Where the marked parts lie, from their first character up to a place. -/
  marks : List (Nat × Nat) := []

/-- Whether `r` is a place in a text of `n` characters, and so are the ends of its marks. -/
def Reach.IsWithin (n : Nat) (r : Reach) : Prop :=
  r.place + r.rest.length = n ∧ ∀ m ∈ r.marks, m.2 ≤ n

namespace Pattern

/-! ## Holding -/

/-- Takes some steps, at most `n`, and then goes on with `next`. -/
def repeated (isGreedy : Bool) (step : Reach → (Reach → Option Reach) → Option Reach) :
    (n : Nat) → Reach → (Reach → Option Reach) → Option Reach
  | 0, r, next => next r
  | n + 1, r, next =>
    let further (_ : Unit) := step r fun r => repeated isGreedy step n r next
    if isGreedy then (further ()).orElse fun _ => next r
    else (next r).orElse further

/-- Where a pattern and what comes `next` lead. -/
def run : Pattern → Reach → (next : Reach → Option Reach) → Option Reach
  | one isIn, r, next =>
    match r.rest with
    | c :: rest =>
      if isIn c then next { r with place := r.place + 1, previous := some c, rest } else none
    | [] => none
  | seq first second, r, next => first.run r fun r => second.run r next
  | alt first second, r, next => (first.run r next).orElse fun _ => second.run r next
  | many isGreedy most body, r, next =>
    repeated isGreedy body.run (min (most.getD r.rest.length) r.rest.length) r next
  | between holds, r, next => if holds r.previous r.rest.head? then next r else none
  | marked part, r, next =>
    part.run r fun s => next { s with marks := (r.place, s.place) :: s.marks }

/-- Where the marked parts of a pattern lie in a text that follows `previous`. The pattern
is looked for from left to right, each time after the place that it led to before; `skip`
characters are still to be passed over. -/
def marksFrom (p : Pattern) (place : Nat) (previous : Option Char) (skip : Nat) :
    List Char → List (Nat × Nat)
  | [] => []
  | c :: rest =>
    if 0 < skip then p.marksFrom (place + 1) (some c) (skip - 1) rest
    else match p.run { place, previous, rest := c :: rest } some with
      | some r => r.marks ++ p.marksFrom (place + 1) (some c) (r.place - (place + 1)) rest
      | none => p.marksFrom (place + 1) (some c) 0 rest

/-- Where the marked parts of a pattern lie in a text, but for those without characters. -/
def marks (p : Pattern) (s : List Char) : List (Nat × Nat) :=
  (p.marksFrom 0 none 0 s).filter fun (start, stop) => start < stop

/-! ## Putting patterns together -/

/-- Patterns one after the other. -/
def all (ps : List Pattern) : Pattern := ps.foldr seq (between fun _ _ => true)

/-- The first of some patterns that does. -/
def any (ps : List Pattern) : Pattern := ps.foldr alt (one fun _ => false)

/-- The characters of a word. -/
def word (s : String) : Pattern := all (s.toList.map fun c => one (· = c))

/-- A pattern that may be there. -/
def optional (p : Pattern) : Pattern := many true (some 1) p

/-- A pattern `n` times. -/
def times (n : Nat) (p : Pattern) : Pattern := all (List.replicate n p)

/-- A pattern once or more often, up to `most` times if that is given. -/
def oneOrMore (isGreedy : Bool) (most : Option Nat) (p : Pattern) : Pattern :=
  seq p (many isGreedy (most.map (· - 1)) p)

/-! ## Where marks lie -/

/-- Every way on leads to places in a text of `n` characters. -/
def StaysWithin (n : Nat) (next : Reach → Option Reach) : Prop :=
  ∀ r, r.IsWithin n → ∀ t, next r = some t → t.IsWithin n

theorem staysWithin_repeated {n : Nat} {isGreedy : Bool}
    {step : Reach → (Reach → Option Reach) → Option Reach}
    (hstep : ∀ next, StaysWithin n next → StaysWithin n (step · next)) (count : Nat)
    (next : Reach → Option Reach) (hnext : StaysWithin n next) :
    StaysWithin n (repeated isGreedy step count · next) := by
  induction count with
  | zero => exact hnext
  | succ count ih =>
    intro r hr t ht
    simp only [repeated] at ht
    have hfurther := hstep _ ih r hr
    split at ht
    · cases hs : step r fun r => repeated isGreedy step count r next with
      | some u => exact hfurther t (by simp_all)
      | none => exact hnext r hr t (by simp_all)
    · cases hn : next r with
      | some u => exact hnext r hr t (by simp_all)
      | none => exact hfurther t (by simp_all)

theorem staysWithin_run {n : Nat} (p : Pattern) (next : Reach → Option Reach)
    (hnext : StaysWithin n next) : StaysWithin n (p.run · next) := by
  induction p generalizing next with
  | one isIn =>
    intro r hr t ht
    simp only [run] at ht
    split at ht
    · next c rest hrest =>
      split at ht
      · have hplace := hr.1
        simp only [hrest, List.length_cons] at hplace
        refine hnext { r with place := r.place + 1, previous := some c, rest } ⟨?_, hr.2⟩ t ht
        simp only
        omega
      · simp at ht
    · simp at ht
  | seq first second ihf ihs => exact ihf _ (ihs _ hnext)
  | alt first second ihf ihs =>
    intro r hr t ht
    simp only [run] at ht
    cases hf : first.run r next with
    | some u => exact ihf next hnext r hr t (by simp_all)
    | none => exact ihs next hnext r hr t (by simp_all)
  | many isGreedy most body ih =>
    intro r hr
    exact staysWithin_repeated ih _ next hnext r hr
  | between holds =>
    intro r hr t ht
    simp only [run] at ht
    split at ht
    · exact hnext r hr t ht
    · simp at ht
  | marked part ih =>
    intro r hr
    refine ih _ ?_ r hr
    intro s hs t ht
    refine hnext { s with marks := (r.place, s.place) :: s.marks } ⟨hs.1, ?_⟩ t ht
    intro m hm
    rcases List.mem_cons.1 hm with rfl | hm
    · have := hs.1
      simp only
      omega
    · exact hs.2 m hm

theorem le_of_mem_marksFrom {p : Pattern} {n place skip : Nat} {previous : Option Char}
    {s : List Char} (hs : place + s.length = n) {m : Nat × Nat}
    (hm : m ∈ p.marksFrom place previous skip s) : m.2 ≤ n := by
  induction s generalizing place previous skip with
  | nil => simp [marksFrom] at hm
  | cons c rest ih =>
    have hrest : place + 1 + rest.length = n := by simp at hs; omega
    simp only [marksFrom] at hm
    split at hm
    · exact ih hrest hm
    · split at hm
      · next r hr =>
        rcases List.mem_append.1 hm with hm | hm
        · have : r.IsWithin n := staysWithin_run p some (fun r hr t ht => by simp_all)
            { place, previous, rest := c :: rest } ⟨hs, by simp⟩ r hr
          exact this.2 m hm
        · exact ih hrest hm
      · exact ih hrest hm

/-- A mark has characters, and lies within the text. -/
theorem mem_marks {p : Pattern} {s : List Char} {m : Nat × Nat} (hm : m ∈ p.marks s) :
    m.1 < m.2 ∧ m.2 ≤ s.length := by
  simp only [marks, List.mem_filter, decide_eq_true_eq] at hm
  exact ⟨hm.2, le_of_mem_marksFrom (by simp) hm.1⟩

end Pattern

end Reconcile.Text
