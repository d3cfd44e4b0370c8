import Folio.Url
import Mathlib.Data.List.TakeWhile

namespace Folio
namespace Url

/-!
# Where an address is cut

By the rule of the site an address is cut at its first hash.  If what stands in front of it has the
name of a source page, the address is published without the ending of that name, and the place on
the page is kept as it is.

The address is in fact searched for the last ending of a name that the end or a hash follows,
wherever the first hash is.  The two agree on every address whose place has no such ending in it.
On all others they disagree: the place is taken for the name of a page then, and loses its own
ending.
-/

/-- What stands in front of the first hash. -/
def pagePart (url : String) : List Char := url.toList.takeWhile (· != '#')

/-- What begins with the first hash. -/
def placePart (url : String) : List Char := url.toList.dropWhile (· != '#')

/-- Whether a text is the ending of a page's file name, in letters of any case. -/
def IsEnding (cs : List Char) : Prop := cs.map Char.toLower = pageSuffix

instance (cs : List Char) : Decidable (IsEnding cs) := inferInstanceAs (Decidable (_ = _))

/-- Whether a text is a place on a page, or nothing. -/
def IsPlace (cs : List Char) : Prop := cs = [] ∨ cs.head? = some '#'

/-- Whether a text ends as the file name of a page does. -/
def NamesPage (cs : List Char) : Prop := ∃ name ending, cs = name ++ ending ∧ IsEnding ending

/-- Whether a text can be cut behind the ending of a name, the rest being a place or nothing. -/
structure CutsAt (cs name ending place : List Char) : Prop where
  divided : cs = name ++ ending ++ place
  ending : IsEnding ending
  place : IsPlace place

/-- Whether the ending of a name stands in a text, at its end or in front of a hash. -/
def HoldsEnding (cs : List Char) : Prop := ∃ name ending place, CutsAt cs name ending place

/-- Whether an address is published as the rule of the site says. -/
def FollowsRule (url : String) : Prop :=
  (isInternal url = true ↔ NamesPage (pagePart url)) ∧
    (NamesPage (pagePart url) → published url = String.ofList
      ('/' :: (pagePart url).take ((pagePart url).length - 5) ++ '/' :: placePart url))

theorem IsEnding.length {cs : List Char} (ending : IsEnding cs) : cs.length = 5 := by
  rw [← List.length_map (f := Char.toLower), ending]
  rfl

theorem IsEnding.take_append {ending : List Char} (isEnding : IsEnding ending) (name : List Char) :
    (name ++ ending).take ((name ++ ending).length - 5) = name := by
  rw [List.length_append, isEnding.length, Nat.add_sub_cancel, List.take_left]

theorem IsEnding.hash_not_mem {cs : List Char} (ending : IsEnding cs) : '#' ∉ cs := by
  intro member
  have inSuffix : Char.toLower '#' ∈ pageSuffix := ending ▸ List.mem_map_of_mem member
  exact absurd inSuffix (by decide)

theorem IsEnding.head_ne_slash {cs : List Char} (ending : IsEnding cs) : cs.head? ≠ some '/' := by
  intro slash
  have inFront := congrArg List.head? ending
  rw [List.head?_map, slash] at inFront
  exact absurd inFront (by decide)

/-- Of two texts one behind the other, a place begins in the second one if the first has no hash. -/
theorem IsPlace.eq_nil_of_append {front back : List Char} (place : IsPlace (front ++ back))
    (noHash : '#' ∉ front) : front = [] := by
  cases front with
  | nil => rfl
  | cons c front =>
      rcases place with nothing | hash
      · cases nothing
      · exact absurd (by simp [Option.some.inj hash]) noHash

theorem placeAfterSuffix?_eq_some_iff {cs place : List Char} :
    placeAfterSuffix? cs = some place ↔ ∃ ending, CutsAt cs [] ending place := by
  have whole := List.take_append_drop pageSuffix.length cs
  constructor
  · intro found
    rw [placeAfterSuffix?] at found
    split at found
    · next ending =>
        refine ⟨cs.take pageSuffix.length, ?_, ending, ?_⟩
        · split at found
          · next after => rw [← Option.some.inj found, List.nil_append, ← after, whole]
          · next after => rw [← Option.some.inj found, List.nil_append, ← after, whole]
          · cases found
        · split at found
          · exact Or.inl (Option.some.inj found).symm
          · exact Or.inr (by rw [← Option.some.inj found]; rfl)
          · cases found
    · cases found
  · rintro ⟨ending, divided, isEnding, isPlace⟩
    have long : ending.length = pageSuffix.length := isEnding.length
    rw [List.nil_append] at divided
    rw [placeAfterSuffix?, divided, List.take_left' long, List.drop_left' long]
    refine (if_pos isEnding).trans ?_
    rcases isPlace with rfl | hash
    · rfl
    · rcases List.head?_eq_some_iff.mp hash with ⟨rest, rfl⟩
      rfl

theorem cutsAt_cons_iff {c d : Char} {cs name ending place : List Char} :
    CutsAt (c :: cs) (d :: name) ending place ↔ c = d ∧ CutsAt cs name ending place := by
  constructor
  · rintro ⟨divided, isEnding, isPlace⟩
    rcases List.cons.inj divided with ⟨rfl, later⟩
    exact ⟨rfl, later, isEnding, isPlace⟩
  · rintro ⟨rfl, divided, isEnding, isPlace⟩
    exact ⟨by rw [divided]; rfl, isEnding, isPlace⟩

/-- Whether a cut is the last one of a text. -/
structure CutsLast (cs name ending place : List Char) : Prop
    extends CutsAt cs name ending place where
  last : ∀ other ending' place', CutsAt cs other ending' place' → other.length ≤ name.length

/-- The search finds the last cut if there is any. -/
theorem splitPage?_spec (cs : List Char) :
    (splitPage? cs = none ∧ ¬ HoldsEnding cs) ∨
      ∃ name ending place, splitPage? cs = some (name, place) ∧ CutsLast cs name ending place := by
  induction cs with
  | nil =>
      refine Or.inl ⟨rfl, ?_⟩
      rintro ⟨name, ending, place, divided, isEnding, -⟩
      have long := congrArg List.length divided
      simp only [List.length_nil, List.length_append, isEnding.length] at long
      omega
  | cons c cs inductionHypothesis =>
      rcases inductionHypothesis with ⟨nothing, free⟩ | ⟨name, ending, place, found, cut⟩
      · -- There is no cut further behind, so the only place for one is the front.
        have onlyFront : ∀ {name ending place}, CutsAt (c :: cs) name ending place → name = [] := by
          intro name ending place cut
          cases name with
          | nil => rfl
          | cons d name => exact absurd ⟨name, ending, place, (cutsAt_cons_iff.mp cut).2⟩ free
        have front : splitPage? (c :: cs) = (placeAfterSuffix? (c :: cs)).map ([], ·) := by
          rw [splitPage?, nothing]
        cases here : placeAfterSuffix? (c :: cs) with
        | none =>
            refine Or.inl ⟨by rw [front, here]; rfl, ?_⟩
            rintro ⟨name, ending, place, cut⟩
            rw [onlyFront cut] at cut
            rw [placeAfterSuffix?_eq_some_iff.mpr ⟨ending, cut⟩] at here
            cases here
        | some place =>
            rcases placeAfterSuffix?_eq_some_iff.mp here with ⟨ending, cut⟩
            refine Or.inr ⟨[], ending, place, by rw [front, here]; rfl, cut, ?_⟩
            intro other ending' place' cut'
            rw [onlyFront cut']
      · refine Or.inr ⟨c :: name, ending, place, by rw [splitPage?, found],
          cutsAt_cons_iff.mpr ⟨rfl, cut.toCutsAt⟩, ?_⟩
        intro other ending' place' cut'
        cases other with
        | nil => exact Nat.zero_le _
        | cons d other =>
            exact Nat.succ_le_succ (cut.last other ending' place' (cutsAt_cons_iff.mp cut').2)

/-- What stands in front of a text does not change where it is cut, if it is. -/
theorem splitPage?_append {cs name place : List Char} (found : splitPage? cs = some (name, place))
    (front : List Char) : splitPage? (front ++ cs) = some (front ++ name, place) := by
  induction front with
  | nil => exact found
  | cons c front inductionHypothesis => rw [List.cons_append, splitPage?, inductionHypothesis]; rfl

theorem splitPage?_eq_none_iff {cs : List Char} : splitPage? cs = none ↔ ¬ HoldsEnding cs := by
  rcases splitPage?_spec cs with ⟨nothing, free⟩ | ⟨name, ending, place, found, cut⟩
  · exact iff_of_true nothing free
  · exact iff_of_false (by simp [found]) (not_not_intro ⟨name, ending, place, cut.toCutsAt⟩)

/-- The ending of a name stands in front of the first hash, or behind it. -/
theorem holdsEnding_append_iff {front back : List Char} (noHash : '#' ∉ front)
    (isPlace : IsPlace back) :
    HoldsEnding (front ++ back) ↔ NamesPage front ∨ HoldsEnding back := by
  constructor
  · rintro ⟨name, ending, place, divided, isEnding, placed⟩
    -- The cut is not inside `front`, where a hash would have to follow it, and the first hash is
    -- not inside the ending.
    rcases List.append_eq_append_iff.mp divided with ⟨rest, whole, rfl⟩ | ⟨rest, rfl, rfl⟩
    · rcases List.append_eq_append_iff.mp whole with ⟨inFront, rfl, rfl⟩ | ⟨late, rfl, rfl⟩
      · have noHashInRest : '#' ∉ rest := fun member =>
          isEnding.hash_not_mem (List.mem_append_right inFront member)
        rw [isPlace.eq_nil_of_append noHashInRest, List.append_nil] at isEnding
        exact Or.inl ⟨name, inFront, rfl, isEnding⟩
      · exact Or.inr ⟨late, ending, place, by simp, isEnding, placed⟩
    · have noHashInRest : '#' ∉ rest := fun member => noHash (List.mem_append_right _ member)
      rw [placed.eq_nil_of_append noHashInRest, List.append_nil]
      exact Or.inl ⟨name, ending, rfl, isEnding⟩
  · rintro (⟨name, ending, rfl, isEnding⟩ | ⟨name, ending, place, rfl, isEnding, placed⟩)
    · exact ⟨name, ending, back, rfl, isEnding, isPlace⟩
    · exact ⟨front ++ name, ending, place, by simp, isEnding, placed⟩

/-- If there is no other cut than at the first hash, the text is cut there. -/
theorem splitPage?_append_of_not_holdsEnding {name ending back : List Char}
    (isEnding : IsEnding ending) (isPlace : IsPlace back) (free : ¬ HoldsEnding back) :
    splitPage? (name ++ ending ++ back) = some (name, back) := by
  cases ending with
  | nil => cases isEnding.length
  | cons c ending =>
      have short : ¬ NamesPage ending := by
        rintro ⟨other, ending', rfl, isEnding'⟩
        have long := isEnding.length
        rw [List.length_cons, List.length_append, isEnding'.length] at long
        omega
      have noHash : '#' ∉ ending := fun member =>
        isEnding.hash_not_mem (List.mem_cons_of_mem c member)
      have later : splitPage? (ending ++ back) = none := by
        rw [splitPage?_eq_none_iff, holdsEnding_append_iff noHash isPlace]
        exact not_or.mpr ⟨short, free⟩
      have here : placeAfterSuffix? (c :: ending ++ back) = some back :=
        placeAfterSuffix?_eq_some_iff.mpr ⟨c :: ending, rfl, isEnding, isPlace⟩
      have front : splitPage? (c :: ending ++ back) = some ([], back) := by
        rw [List.cons_append, splitPage?, later]
        dsimp only
        rw [← List.cons_append, here]
        rfl
      rw [List.append_assoc]
      simpa using splitPage?_append front name

/-! ## Addresses -/

section Address

variable {url : String}

theorem pagePart_append_placePart (url : String) : pagePart url ++ placePart url = url.toList :=
  List.takeWhile_append_dropWhile

theorem hash_not_mem_pagePart (url : String) : '#' ∉ pagePart url := by
  intro member
  have other := List.mem_takeWhile_imp member
  simp at other

theorem isPlace_placePart (url : String) : IsPlace (placePart url) := by
  cases rest : placePart url with
  | nil => exact Or.inl rfl
  | cons c cs =>
      have stops := List.head?_dropWhile_not (· != '#') url.toList
      rw [← placePart, rest] at stops
      exact Or.inr (by simpa using stops)

theorem pageAndPlace?_of_oneLine (oneLine : '\n' ∉ url.toList) :
    pageAndPlace? url = splitPage? (pagePart url ++ placePart url) := by
  rw [pageAndPlace?, if_neg oneLine, pagePart_append_placePart]

/-- A relative address on one line leads to a page exactly if the ending of a name stands in front
of its first hash or behind it. -/
theorem isInternal_iff (relative : isRelative url = true) (oneLine : '\n' ∉ url.toList) :
    isInternal url = true ↔ NamesPage (pagePart url) ∨ HoldsEnding (placePart url) := by
  rw [isInternal, relative, Bool.true_and, pageAndPlace?_of_oneLine oneLine,
    ← holdsEnding_append_iff (hash_not_mem_pagePart url) (isPlace_placePart url)]
  rcases splitPage?_spec (pagePart url ++ placePart url) with
    ⟨nothing, free⟩ | ⟨name, ending, place, found, cut⟩
  · rw [nothing]
    exact iff_of_false Bool.false_ne_true free
  · rw [found]
    exact iff_of_true rfl ⟨name, ending, place, cut.toCutsAt⟩

theorem published_of_pageAndPlace? {name place : List Char}
    (cut : pageAndPlace? url = some (name, place)) :
    published url = String.ofList ('/' :: name ++ '/' :: place) := by
  rw [published, cut]

/-- An address whose place holds no ending of a name is published by the rule. -/
theorem followsRule_of_not_holdsEnding (relative : isRelative url = true)
    (oneLine : '\n' ∉ url.toList) (free : ¬ HoldsEnding (placePart url)) : FollowsRule url := by
  refine ⟨?_, ?_⟩
  · rw [isInternal_iff relative oneLine, or_iff_left free]
  · rintro ⟨name, ending, divided, isEnding⟩
    have cut := pageAndPlace?_of_oneLine oneLine
    rw [divided, splitPage?_append_of_not_holdsEnding isEnding (isPlace_placePart url) free] at cut
    rw [published_of_pageAndPlace? cut, divided, isEnding.take_append]

/-- An address whose place holds the ending of a name is cut at the last one of them. -/
theorem exists_published_of_holdsEnding (oneLine : '\n' ∉ url.toList)
    (holds : HoldsEnding (placePart url)) :
    ∃ name ending place, CutsLast (placePart url) name ending place ∧
      published url = String.ofList ('/' :: (pagePart url ++ name) ++ '/' :: place) := by
  rcases splitPage?_spec (placePart url) with ⟨-, free⟩ | ⟨name, ending, place, found, cut⟩
  · exact absurd holds free
  · refine ⟨name, ending, place, cut, published_of_pageAndPlace? ?_⟩
    rw [pageAndPlace?_of_oneLine oneLine, splitPage?_append found]

/-- A relative address on one line is published by the rule exactly if its place holds no ending of
a page's name.  If it holds one, the address counts as that of a page, whatever stands in front of
the hash, and what is dropped from it is the last of these endings. -/
theorem followsRule_iff (url : String) (relative : isRelative url = true)
    (oneLine : '\n' ∉ url.toList) :
    (FollowsRule url ↔ ¬ HoldsEnding (placePart url)) ∧
      (HoldsEnding (placePart url) → isInternal url = true ∧
        ∃ name ending place, CutsLast (placePart url) name ending place ∧
          published url = String.ofList ('/' :: (pagePart url ++ name) ++ '/' :: place)) := by
  refine ⟨⟨?_, followsRule_of_not_holdsEnding relative oneLine⟩, fun holds =>
    ⟨(isInternal_iff relative oneLine).mpr (Or.inr holds),
      exists_published_of_holdsEnding oneLine holds⟩⟩
  rintro ⟨onlyPages, byRule⟩ holds
  have isPage := onlyPages.mp ((isInternal_iff relative oneLine).mpr (Or.inr holds))
  rcases exists_published_of_holdsEnding oneLine holds with ⟨name, ending, place, -, written⟩
  rcases isPage with ⟨front, ending', divided, isEnding⟩
  have rule := byRule ⟨front, ending', divided, isEnding⟩
  -- The rule has a slash where the search has left the ending in front of the hash.
  rw [written, divided, isEnding.take_append] at rule
  have same := String.ofList_injective rule
  simp only [List.cons_append, List.append_assoc, List.cons.injEq, true_and,
    List.append_cancel_left_eq] at same
  have slash := congrArg List.head? same
  cases ending' with
  | nil => cases isEnding.length
  | cons c rest => exact isEnding.head_ne_slash slash

end Address

/-- The place of this address has an ending of another kind. -/
theorem followsRule_setupPage :
    isRelative "guide/setup.HTML#a.htm" = true ∧ '\n' ∉ "guide/setup.HTML#a.htm".toList ∧
      isInternal "guide/setup.HTML#a.htm" = true ∧
      published "guide/setup.HTML#a.htm" = "/guide/setup/#a.htm" := by
  have relative : isRelative "guide/setup.HTML#a.htm" = true := by decide +kernel
  have oneLine : '\n' ∉ "guide/setup.HTML#a.htm".toList := by decide +kernel
  have free : ¬ HoldsEnding (placePart "guide/setup.HTML#a.htm") :=
    splitPage?_eq_none_iff.mp (by decide +kernel)
  have isPage : NamesPage (pagePart "guide/setup.HTML#a.htm") :=
    ⟨"guide/setup".toList, ".HTML".toList, by decide +kernel, by decide +kernel⟩
  have follows := (followsRule_iff _ relative oneLine).1.mpr free
  refine ⟨relative, oneLine, follows.1.mpr isPage, (follows.2 isPage).trans ?_⟩
  decide +kernel

/-- The place of an address may end as the name of a page does; then it loses that ending, and the
page in front of it keeps its own. -/
theorem not_forall_followsRule :
    ¬ ∀ url : String, isRelative url = true → '\n' ∉ url.toList → FollowsRule url := by
  intro claimed
  have follows := claimed "page.html#x.html" (by decide +kernel) (by decide +kernel)
  have byRule := follows.2 ⟨"page".toList, ".html".toList, by decide +kernel, by decide +kernel⟩
  revert byRule
  decide +kernel

end Url
end Folio
