import Courier.Proofs.Template.Argument
import Courier.Proofs.Template.Group
import Courier.Proofs.Text.Place

/-! What stands between the braces of a call.

The text around the group in parentheses names the chain, and the text in it writes the argument.
`Names` and `Writes` say so of the texts alone: by the pieces between dots and commas, by the blanks
at their ends and by one pair of quotes. `parseInner?_reads`: a chain and an argument are read from
text with one group and from no other, and they are those that the group, which is the only one
there is, names and writes.

`parseBySlices?` does the same by places: it looks for groups byte by byte and takes every text as
a slice. All its slices are there, and it reads what `parseInner?` reads (`parseBySlices?_eq`). -/

namespace Courier.Template

open Text (StandsAt slice?)

/-! ### The chain -/

/-- The names are the texts between dots, without the blanks around them. -/
def Names (cs : List Char) (chain : List String) : Prop :=
  ∃ pieces, Text.Pieces '.' cs pieces ∧
    List.Forall₂ (fun piece name => Text.Trimmed piece name.toList) pieces chain

theorem names_iff {cs : List Char} {chain : List String} :
    Names cs chain ↔ (Text.splitOn '.' cs).map (String.ofList ∘ Text.trim) = chain := by
  have htrim (piece : List Char) (name : String) :
      Text.Trimmed piece name.toList ↔ (String.ofList ∘ Text.trim) piece = name := by
    rw [Text.trimmed_iff, Function.comp_apply, String.ofList_eq]
  simp only [Names, Text.pieces_iff, Text.forall₂_iff_map htrim, exists_eq_left']

/-! ### By places -/

/-- The first group of a text that stands at the byte `place`: where it starts, where it stops, and
the text behind it. At every place it is tried whether a group opens there and is closed at all. -/
def findGroup? (place : Nat) : List Char → Option (Nat × Nat × List Char)
  | [] => none
  | c :: cs =>
    match if c = '(' then Text.cut? ')' cs else none with
    | some (inside, after) => some (place, place + Utf8.size ('(' :: inside ++ [')']), after)
    | none => findGroup? (place + c.utf8Size) cs

namespace Argument

/-- The argument that items make. -/
def ofItems : List String → Argument
  | [text] => .single text
  | items => .list items

/-- An item, its quotes taken off by a slice. -/
def itemBySlice? (piece : List Char) : Option (List Char) :=
  let cs := Text.trim piece
  if quotes.any fun quote => 2 ≤ Utf8.size cs ∧ cs.head? = some quote ∧ cs.getLast? = some quote then
    slice? 1 (Utf8.size cs - 1) cs
  else some cs

end Argument

/-- The chain and the argument that stand between braces, if there are any, all texts taken as
slices. There is no result at all if one of the slices is not there. -/
def parseBySlices? (inner : List Char) : Option (Option (List String × Argument)) :=
  match findGroup? 0 inner with
  | none => some none
  | some (start, stop, rest) =>
    if (findGroup? stop rest).isSome then some none
    else do
      let inside ← slice? (start + 1) (stop - 1) inner
      let before ← slice? 0 start inner
      let after ← slice? stop (Utf8.size inner) inner
      let items ← (Text.splitOn ',' inside).mapM Argument.itemBySlice?
      let chain := (Text.splitOn '.' (before ++ after)).map (String.ofList ∘ Text.trim)
      return some (chain, Argument.ofItems (items.map String.ofList))

theorem group?_eq_none_of_notMem {cs : List Char} (h : ')' ∉ cs) : group? cs = none := by
  rw [group?_eq_none_iff]
  intro front back hcs hclose
  rw [hcs] at h
  exact h (List.mem_append_right front (List.mem_cons_of_mem _ hclose))

theorem group?_cons {c : Char} (hc : c ≠ '(') (cs : List Char) :
    group? (c :: cs) =
      (group? cs).map fun (before, inside, after) => (c :: before, inside, after) := by
  rw [group?, group?, Text.cut?, if_neg hc]
  cases Text.cut? '(' cs with
  | none => rfl
  | some opened =>
    obtain ⟨before, rest⟩ := opened
    cases hclose : Text.cut? ')' rest <;> simp [hclose]

/-- Where one opening parenthesis is not closed, none behind it is: the group found is the first. -/
theorem findGroup?_eq (place : Nat) (cs : List Char) :
    findGroup? place cs = (group? cs).map fun (before, inside, after) =>
      (place + Utf8.size before,
        place + Utf8.size before + Utf8.size ('(' :: inside ++ [')']), after) := by
  fun_induction findGroup? place cs with
  | case1 place => rfl
  | case2 place c cs inside after h =>
    split at h
    · next hc =>
      obtain ⟨htext, hshortest⟩ := Text.cut?_eq_some_iff.1 h
      have hgroup : group? (c :: cs) = some ([], inside, after) :=
        group?_eq_some_iff.2 ⟨by rw [hc, htext]; rfl, List.not_mem_nil, hshortest⟩
      rw [hgroup]
      rfl
    · cases h
  | case3 place c cs h ih =>
    rw [ih]
    split at h
    · next hc =>
      -- Nothing is left that could close a group at a later place.
      have hclose : ')' ∉ cs := by
        intro hmem
        obtain ⟨inside, after, rfl, hshortest⟩ := List.eq_append_cons_of_mem hmem
        rw [Text.cut?_append_cons hshortest] at h
        cases h
      have hclose' : ')' ∉ c :: cs := List.not_mem_cons_of_ne_of_not_mem (by simp [hc]) hclose
      rw [group?_eq_none_of_notMem hclose, group?_eq_none_of_notMem hclose']
      rfl
    · next hc =>
      rw [group?_cons hc, Option.map_map]
      refine congrArg (Option.map · (group? cs)) (funext fun ⟨before, inside, after⟩ => ?_)
      simp only [Function.comp_apply, Utf8.size, Nat.add_assoc]

theorem utf8Size_of_mem_quotes {quote : Char} (h : quote ∈ quotes) : quote.utf8Size = 1 := by
  rcases mem_quotes.1 h with rfl | rfl <;> rfl

/-- A text stands in quotes if its ends are quotes and it has more than one byte. -/
theorem quoted_iff_size {quote : Char} (hquote : quote ∈ quotes) {cs : List Char} :
    (2 ≤ Utf8.size cs ∧ cs.head? = some quote ∧ cs.getLast? = some quote) ↔
      ∃ inside, cs = quote :: inside ++ [quote] := by
  have hone := utf8Size_of_mem_quotes hquote
  constructor
  · intro h
    obtain ⟨hsize, hfirst, hlast⟩ := h
    obtain ⟨rest, rfl⟩ := List.head?_eq_some_iff.1 hfirst
    have hlength : 2 ≤ (quote :: rest).length := by
      cases rest with
      | nil =>
        rw [Utf8.size, hone] at hsize
        exact hsize
      | cons c rest => simp
    exact ⟨_, Argument.unquote?_eq_some_iff.1 (if_pos ⟨hlength, hfirst, hlast⟩)⟩
  · intro h
    obtain ⟨inside, rfl⟩ := h
    refine ⟨?_, rfl, List.getLast?_concat⟩
    rw [Utf8.size_append, Utf8.size, Utf8.size, hone]
    omega

theorem itemBySlice?_eq (piece : List Char) :
    Argument.itemBySlice? piece = some (Argument.item piece) := by
  obtain ⟨middle, htrim, hitem⟩ := isItem_iff.2 (rfl : Argument.item piece = _)
  rw [Argument.itemBySlice?, Text.trimmed_iff.1 htrim]
  generalize Argument.item piece = item at hitem
  cases hitem with
  | @quoted quote _ hquote =>
    have hone : Utf8.size [quote] = 1 := utf8Size_of_mem_quotes hquote
    have hends := (quoted_iff_size hquote).2 ⟨item, rfl⟩
    rw [if_pos (List.any_eq_true.2 ⟨quote, hquote, decide_eq_true hends⟩), Text.slice?_eq_some_iff]
    refine ⟨⟨[quote], [quote], rfl, hone⟩, ?_⟩
    rw [List.cons_append, ← List.singleton_append, Utf8.size_append, Utf8.size_append, hone]
    omega
  | bare h =>
    rw [if_neg]
    intro hany
    obtain ⟨quote, hquote, hends⟩ := List.any_eq_true.1 hany
    obtain ⟨inside, htext⟩ := (quoted_iff_size hquote).1 (of_decide_eq_true hends)
    exact h quote hquote inside htext

/-- The texts before, inside and after a group stand where its places say. -/
theorem slices_around {cs before inside after : List Char} {start stop : Nat}
    (hcs : cs = before ++ '(' :: (inside ++ ')' :: after)) (hstart : start = Utf8.size before)
    (hstop : stop = start + Utf8.size ('(' :: inside ++ [')'])) :
    slice? (start + 1) (stop - 1) cs = some inside ∧ slice? 0 start cs = some before ∧
      slice? stop (Utf8.size cs) cs = some after := by
  have hopen : Utf8.size ['('] = 1 := rfl
  have hgroup : Utf8.size ('(' :: inside ++ [')']) = 1 + Utf8.size inside + 1 := by
    rw [Utf8.size_append]
    rfl
  have hinside : StandsAt inside (start + 1) cs :=
    ⟨before ++ ['('], ')' :: after, by simp [hcs], by rw [Utf8.size_append, hopen, hstart]⟩
  have hbefore : StandsAt before 0 cs := ⟨[], '(' :: (inside ++ ')' :: after), hcs, rfl⟩
  have hafter : StandsAt after stop cs :=
    ⟨before ++ ('(' :: inside ++ [')']), [], by simp [hcs],
      by rw [Utf8.size_append, hstop, hstart]⟩
  have hsize : Utf8.size cs = stop + Utf8.size after := by
    rw [hstop, hstart, ← Utf8.size_append, ← Utf8.size_append, hcs]
    simp
  exact ⟨Text.slice?_eq_some_iff.2 ⟨hinside, by omega⟩,
    Text.slice?_eq_some_iff.2 ⟨hbefore, by omega⟩, Text.slice?_eq_some_iff.2 ⟨hafter, hsize⟩⟩

/-- **All slices are there**, and reading by them reads the same. -/
theorem parseBySlices?_eq (inner : List Char) :
    parseBySlices? inner = some (parseInner? inner) := by
  rw [parseBySlices?, findGroup?_eq]
  cases hgroup : group? inner with
  | none =>
    have hparse : parseInner? inner = none := by
      rw [parseInner?, hgroup]
      rfl
    rw [hparse]
    rfl
  | some found =>
    obtain ⟨before, inside, after⟩ := found
    obtain ⟨hcs, -, -⟩ := group?_eq_some_iff.1 hgroup
    simp only [Option.map_some, Nat.zero_add, findGroup?_eq, Option.isSome_map]
    cases hsecond : group? after with
    | some second => simp [parseInner?, hgroup, hsecond]
    | none =>
      obtain ⟨hinside, hbefore, hafter⟩ := slices_around hcs rfl rfl
      have hitems : (Text.splitOn ',' inside).mapM Argument.itemBySlice? =
          some ((Text.splitOn ',' inside).map Argument.item) := by
        have hitem : Argument.itemBySlice? = fun piece => pure (Argument.item piece) := by
          funext piece
          exact itemBySlice?_eq piece
        rw [hitem, List.mapM_pure]
        rfl
      rw [parseInner?_of_oneGroup (oneGroup_iff.2 ⟨hgroup, hsecond⟩), hinside, hbefore, hafter]
      simp only [Option.bind_eq_bind, Option.bind_some, hitems, Option.pure_def]
      rw [List.map_map]
      rfl

/-! ### What is read -/

theorem OneGroup.unique {cs before inside after before' inside' after' : List Char}
    (h : OneGroup cs before inside after) (h' : OneGroup cs before' inside' after') :
    before' = before ∧ inside' = inside ∧ after' = after := by
  have hgroup := (oneGroup_iff.1 h').1
  rw [(oneGroup_iff.1 h).1] at hgroup
  cases hgroup
  exact ⟨rfl, rfl, rfl⟩

/-- **A call is read from text with one group in parentheses**, and from no other. There is one way
to tell what stands before, inside and after the group; the chain is what the text around the group
names, and the argument what the text in it writes. Taking these texts by their places never fails
and comes to the same. -/
theorem parseInner?_reads (inner : List Char) :
    ((parseInner? inner).isSome = true ↔ HasOneGroup inner) ∧
      (∀ before inside after, OneGroup inner before inside after →
        (∀ before' inside' after', OneGroup inner before' inside' after' →
          before' = before ∧ inside' = inside ∧ after' = after) ∧
        ∀ chain argument, parseInner? inner = some (chain, argument) ↔
          Names (before ++ after) chain ∧ Writes inside argument) ∧
      parseBySlices? inner = some (parseInner? inner) := by
  refine ⟨isSome_parseInner?_iff, fun before inside after h => ⟨fun _ _ _ => h.unique, ?_⟩,
    parseBySlices?_eq inner⟩
  intro chain argument
  rw [parseInner?_of_oneGroup h, names_iff, writes_iff, Option.some.injEq, Prod.mk.injEq]

/-- A closed parenthesis before the group, an open one in it, and one behind it that nothing closes. -/
theorem parseInner?_reads_unclosed :
    OneGroup "b ) . ( 'x, (é ,\"y\" ).\u00a0c(".toList
        "b ) . ".toList " 'x, (é ,\"y\" ".toList ".\u00a0c(".toList ∧
      Names ("b ) . ".toList ++ ".\u00a0c(".toList) ["b )", "", "c("] ∧
      Writes " 'x, (é ,\"y\" ".toList (.list ["'x", "(é", "y"]) := by
  have hgroup : OneGroup "b ) . ( 'x, (é ,\"y\" ).\u00a0c(".toList
      "b ) . ".toList " 'x, (é ,\"y\" ".toList ".\u00a0c(".toList := oneGroup_iff.2 (by decide)
  have hread := ((parseInner?_reads _).2.1 _ _ _ hgroup).2 ["b )", "", "c("] (.list ["'x", "(é", "y"])
  exact ⟨hgroup, hread.1 (by decide)⟩

end Courier.Template
