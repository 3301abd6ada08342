import Mathlib.Data.List.Chain
import Courier.Template.Scan

/-! Where the braces of a text open and close.

What the search for braces finds is the text again (`append_of_braced?`), and on a text made
for it, it finds what it was made from (`braced?_append`): text that never opens braces, braces,
what stands inside them, and the rest. -/

namespace Courier.Template

/-! ### What a search finds -/

theorem append_of_closing? {cs inner back : List Char} (h : closing? cs = some (inner, back)) :
    cs = inner ++ '}' :: '}' :: back := by
  fun_induction closing? cs generalizing inner with
  | case1 => cases h
  | case2 cs =>
    cases h
    rfl
  | case3 c cs _ ih =>
    obtain ⟨⟨front, rest⟩, hq, he⟩ := Option.map_eq_some_iff.1 h
    cases he
    rw [ih hq, List.cons_append]

theorem append_of_braced? {cs before inner after : List Char}
    (h : braced? cs = some (before, inner, after)) : cs = before ++ withBraces inner ++ after := by
  fun_induction braced? cs generalizing before with
  | case1 => cases h
  | case2 c cs =>
    obtain ⟨⟨front, rest⟩, hq, he⟩ := Option.map_eq_some_iff.1 h
    cases he
    rw [append_of_closing? hq]
    simp [withBraces]
  | case3 c cs _ ih =>
    obtain ⟨⟨front, rest⟩, hq, he⟩ := Option.map_eq_some_iff.1 h
    cases he
    rw [ih hq]
    rfl

/-! ### What a search is made for -/

/-- Nowhere in the text does the character stand twice in a row. -/
def NoPair (x : Char) (cs : List Char) : Prop :=
  cs.IsChain fun a b => ¬(a = x ∧ b = x)

theorem noPair_iff {x : Char} {cs : List Char} : NoPair x cs ↔ ¬[x, x] <:+: cs := by
  rw [NoPair, List.isChain_iff_forall_rel_of_append_cons_cons]
  constructor
  · rintro h ⟨front, back, rfl⟩
    exact @h x x front back (by simp) ⟨rfl, rfl⟩
  · rintro h a b front back rfl ⟨rfl, rfl⟩
    exact h ⟨front, back, by simp⟩

theorem noPair_cons {x c : Char} {cs : List Char} :
    NoPair x (c :: cs) ↔ ¬(c = x ∧ cs.head? = some x) ∧ NoPair x cs := by
  rw [NoPair, List.isChain_cons]
  refine and_congr ⟨fun h hc => h x hc.2 ⟨hc.1, rfl⟩, ?_⟩ Iff.rfl
  rintro h y hy ⟨hc, rfl⟩
  exact h ⟨hc, hy⟩

theorem noPair_of_notMem {x : Char} {cs : List Char} (h : x ∉ cs) : NoPair x cs := by
  induction cs with
  | nil => exact .nil
  | cons c cs ih =>
    refine noPair_cons.2 ⟨?_, ih fun hx => h (List.mem_cons_of_mem c hx)⟩
    rintro ⟨rfl, -⟩
    exact h (List.mem_cons_self ..)

/-- Another character keeps the texts around it apart. -/
theorem noPair_append_cons {x sep : Char} (hsep : sep ≠ x) {a b : List Char} (ha : NoPair x a)
    (hb : NoPair x b) : NoPair x (a ++ sep :: b) := by
  refine List.isChain_append.2 ⟨ha, noPair_cons.2 ⟨fun h => hsep h.1, hb⟩, ?_⟩
  rintro c _ d hd ⟨-, rfl⟩
  cases hd
  exact hsep rfl

theorem noPair_intercalate {x sep : Char} (hsep : sep ≠ x) {pieces : List (List Char)}
    (h : ∀ p ∈ pieces, NoPair x p) : NoPair x ([sep].intercalate pieces) := by
  induction pieces with
  | nil => exact .nil
  | cons p pieces ih =>
    have hrest := ih fun q hq => h q (List.mem_cons_of_mem p hq)
    cases pieces with
    | nil => rw [List.intercalate_singleton]; exact h p (List.mem_cons_self ..)
    | cons q pieces =>
      rw [List.intercalate_cons_cons, List.append_assoc]
      exact noPair_append_cons hsep (h p (List.mem_cons_self ..)) hrest

/-- Text behind another makes no pair at its head, unless that one is its last character. -/
theorem head_append_ne {x c : Char} {cs back : List Char} (h : ¬(c = x ∧ cs.head? = some x))
    (hlast : (c :: cs).getLast? ≠ some x) : ¬(c = x ∧ (cs ++ back).head? = some x) := by
  cases cs with
  | nil =>
    rintro ⟨rfl, -⟩
    exact hlast rfl
  | cons d cs => exact h

theorem getLast?_tail_ne {x c : Char} {cs : List Char} (h : (c :: cs).getLast? ≠ some x) :
    cs.getLast? ≠ some x := by
  cases cs with
  | nil => nofun
  | cons d cs => rwa [List.getLast?_cons_cons] at h

theorem noPair_concat_iff {x : Char} {cs : List Char} :
    NoPair x (cs ++ [x]) ↔ NoPair x cs ∧ cs.getLast? ≠ some x := by
  rw [NoPair, List.isChain_append]
  constructor
  · rintro ⟨hcs, -, hlast⟩
    exact ⟨hcs, fun h => hlast x h x rfl ⟨rfl, rfl⟩⟩
  · rintro ⟨hcs, hlast⟩
    refine ⟨hcs, .singleton x, ?_⟩
    rintro a ha b - ⟨rfl, -⟩
    exact hlast ha

theorem closing?_cons {c : Char} {cs : List Char} (h : ¬(c = '}' ∧ cs.head? = some '}')) :
    closing? (c :: cs) = (closing? cs).map fun (front, back) => (c :: front, back) := by
  rw [closing?]
  rintro cs' rfl rfl
  exact h ⟨rfl, rfl⟩

theorem braced?_cons {c : Char} {cs : List Char} (h : ¬(c = '{' ∧ cs.head? = some '{')) :
    braced? (c :: cs) =
      (braced? cs).map fun (front, inner, back) => (c :: front, inner, back) := by
  rw [braced?]
  rintro d cs' rfl rfl
  exact h ⟨rfl, rfl⟩

/-- A text closes where its first pair of closing braces stands. -/
theorem closing?_append {cs : List Char} (h : NoPair '}' cs) (hlast : cs.getLast? ≠ some '}')
    (back : List Char) : closing? (cs ++ '}' :: '}' :: back) = some (cs, back) := by
  induction cs with
  | nil => rfl
  | cons c cs ih =>
    obtain ⟨hhead, htail⟩ := noPair_cons.1 h
    rw [List.cons_append, closing?_cons (head_append_ne hhead hlast),
      ih htail (getLast?_tail_ne hlast)]
    rfl

/-- Braces open where the first pair of opening braces stands. -/
theorem braced?_append {cs inner back rest : List Char} {c : Char} (h : NoPair '{' cs)
    (hlast : cs.getLast? ≠ some '{') (hc : closing? rest = some (inner, back)) :
    braced? (cs ++ '{' :: '{' :: c :: rest) = some (cs, c :: inner, back) := by
  induction cs with
  | nil => rw [List.nil_append, braced?, hc, Option.map_some]
  | cons d cs ih =>
    obtain ⟨hhead, htail⟩ := noPair_cons.1 h
    rw [List.cons_append, braced?_cons (head_append_ne hhead hlast),
      ih htail (getLast?_tail_ne hlast)]
    rfl

theorem braced?_eq_none {cs : List Char} (h : NoPair '{' cs) : braced? cs = none := by
  induction cs with
  | nil => rfl
  | cons c cs ih =>
    obtain ⟨hhead, htail⟩ := noPair_cons.1 h
    rw [braced?_cons hhead, ih htail]
    rfl

/-! ### What a search passes over -/

theorem noPair_of_closing?_eq_none {cs : List Char} (h : closing? cs = none) : NoPair '}' cs := by
  fun_induction closing? cs with
  | case1 => exact .nil
  | case2 cs => cases h
  | case3 c cs hc ih =>
    refine noPair_cons.2 ⟨?_, ih (Option.map_eq_none_iff.1 h)⟩
    rintro ⟨rfl, hhead⟩
    obtain ⟨rest, rfl⟩ := List.head?_eq_some_iff.1 hhead
    exact hc rest rfl rfl

/-- The first pair of closing braces closes: there is none before it, not even one that its first
brace makes with the character before it. -/
theorem noPair_of_closing? {cs inner back : List Char} (h : closing? cs = some (inner, back)) :
    NoPair '}' (inner ++ ['}']) := by
  fun_induction closing? cs generalizing inner with
  | case1 => cases h
  | case2 cs =>
    cases h
    exact .singleton _
  | case3 c cs hc ih =>
    obtain ⟨⟨front, rest⟩, hq, he⟩ := Option.map_eq_some_iff.1 h
    cases he
    refine noPair_cons.2 ⟨?_, ih hq⟩
    rintro ⟨rfl, hhead⟩
    have hcs : cs.head? = some '}' := by
      rw [append_of_closing? hq, ← hhead]
      cases front <;> rfl
    obtain ⟨rest', rfl⟩ := List.head?_eq_some_iff.1 hcs
    exact hc rest' rfl rfl

/-- Braces hold a character, and end with the first pair of closing braces behind it. -/
theorem shortest_of_braced? {cs before inner after : List Char}
    (h : braced? cs = some (before, inner, after)) :
    inner ≠ [] ∧ NoPair '}' (inner.tail ++ ['}']) := by
  fun_induction braced? cs generalizing before with
  | case1 => cases h
  | case2 c cs =>
    obtain ⟨⟨front, rest⟩, hq, he⟩ := Option.map_eq_some_iff.1 h
    cases he
    exact ⟨List.cons_ne_nil _ _, noPair_of_closing? hq⟩
  | case3 c cs hc ih =>
    obtain ⟨⟨front, inner', rest⟩, hq, he⟩ := Option.map_eq_some_iff.1 h
    cases he
    exact ih hq

/-- The first pair of opening braces opens, as that of closing braces closes. -/
theorem noPair_of_braced? {cs before inner after : List Char}
    (h : braced? cs = some (before, inner, after)) : NoPair '{' (before ++ ['{']) := by
  fun_induction braced? cs generalizing before with
  | case1 => cases h
  | case2 c cs =>
    obtain ⟨⟨front, rest⟩, hq, he⟩ := Option.map_eq_some_iff.1 h
    cases he
    exact .singleton _
  | case3 c cs hc ih =>
    obtain ⟨⟨front, inner', rest⟩, hq, he⟩ := Option.map_eq_some_iff.1 h
    cases he
    refine noPair_cons.2 ⟨?_, ih hq⟩
    rintro ⟨rfl, hhead⟩
    -- The opening braces are more than one character, so these two are not all of the text.
    obtain ⟨d, rest', rfl⟩ : ∃ d rest', cs = '{' :: d :: rest' := by
      rw [append_of_braced? hq]
      cases front with
      | nil => exact ⟨_, _, rfl⟩
      | cons x front =>
        cases hhead
        cases front <;> exact ⟨_, _, rfl⟩
    exact hc d rest' rfl rfl

/-- Where nothing is found, no braces that hold a character are both opened and closed. -/
theorem not_infix_of_braced?_eq_none {cs : List Char} (h : braced? cs = none) (c : Char)
    (inner : List Char) : ¬withBraces (c :: inner) <:+: cs := by
  fun_induction braced? cs with
  | case1 => simp [withBraces]
  | case2 d cs =>
    have hpair := noPair_iff.1 (noPair_of_closing?_eq_none (Option.map_eq_none_iff.1 h))
    rintro ⟨front, back, htext⟩
    -- Three characters at least stand before the closing braces.
    have hclose : '}' :: '}' :: back <:+ '{' :: '{' :: d :: cs :=
      ⟨front ++ '{' :: '{' :: c :: inner, by rw [← htext]; simp [withBraces]⟩
    have hlength : ('}' :: '}' :: back).length ≤ cs.length := by
      have := congrArg List.length htext
      simp only [withBraces, List.length_append, List.length_cons, List.length_nil] at this ⊢
      omega
    have hsuffix := List.suffix_of_suffix_length_le hclose (List.suffix_append ['{', '{', d] cs) hlength
    exact hpair ((List.prefix_append ['}', '}'] back).isInfix.trans hsuffix.isInfix)
  | case3 d cs hd ih =>
    rw [List.infix_cons_iff]
    rintro (⟨back, hprefix⟩ | hinfix)
    · obtain ⟨rfl, rfl⟩ := List.cons.inj hprefix
      exact hd c _ rfl rfl
    · exact ih (Option.map_eq_none_iff.1 h) hinfix

end Courier.Template
