import Folio.Proofs.Markup.ArenaChange
import Folio.Proofs.Markup.RawText

namespace Folio
namespace Markup

/-!
# Text elements of a tree under construction

Some elements of the page hold nothing but text, which the reader cuts off in front of the end tag of
the element.  While a tree is built nodes are hung, moved and taken out.  None of this touches a text
element as long as nothing is hung below one and nothing is taken out of one.  Every item that may
hold nodes is loose in this sense, since a text element holds texts only.
-/

/-- Whether nodes may hang below an item of this kind. -/
def ItemKind.canHold : ItemKind → Bool
  | .document => true
  | .templateContents => true
  | .element vocabulary name _ => vocabulary != .page || !textTags.contains name
  | .text _ => false
  | .comment _ => false

namespace Arena

def CanHold (a : Arena) (id : Nat) : Prop := ∃ kind, a.kind? id = some kind ∧ kind.canHold = true

def IsTextElement (a : Arena) (id : Nat) (name : String) : Prop :=
  name ∈ textTags ∧ ∃ attrs, a.kind? id = some (.element .page name attrs)

/-- Whether an item holds one text and nothing else; an empty text need not be there. -/
def HoldsText (a : Arena) (id : Nat) (text : String) : Prop :=
  (a.children id = #[] ∧ text = "") ∨
    ∃ child, a.children id = #[child] ∧ a.kind? child = some (.text text)

/-- Whether a text element holds a text to the end. -/
def HasText (a : Arena) (id : Nat) (name text : String) : Prop :=
  a.IsTextElement id name ∧ a.HoldsText id text

theorem CanHold.not_isTextElement {a : Arena} {id : Nat} (holds : a.CanHold id) (name : String) :
    ¬ a.IsTextElement id name := by
  rintro ⟨member, attrs, isElement⟩
  rcases holds with ⟨kind, isKind, canHold⟩
  rw [isElement] at isKind
  rw [← Option.some.inj isKind] at canHold
  simp [ItemKind.canHold, member] at canHold

/-- Whether an item is in no text element. -/
def IsLoose (a : Arena) (id : Nat) : Prop :=
  ∀ p name, a.parent? id = some p → ¬ a.IsTextElement p name

/-- Whether everything that may hold nodes in one tree may do so in another. -/
def Admits (a a' : Arena) : Prop := ∀ id, a.CanHold id → a'.CanHold id

variable {a : Arena} {incomplete : Option Nat}

theorem CanHold.isSome {id : Nat} (holds : a.CanHold id) : (a.kind? id).isSome := by
  rcases holds with ⟨kind, isKind, -⟩
  rw [isKind]
  rfl

theorem holdsText_detach {id : Nat} (loose : a.IsLoose id) {y : Nat} {name text : String}
    (isText : a.IsTextElement y name) (holds : a.HoldsText y text) :
    (a.detach id).HoldsText y text := by
  have notParent : a.parent? id ≠ some y := fun isParent => loose y name isParent isText
  simpa only [HoldsText, children_detach, kind?_detach, if_neg notParent] using holds

/-- The texts of all text elements are kept, if nothing is hung below them. -/
theorem Hangs.holdsText {a' : Arena} {p id : Nat} (hangs : Hangs a a' p id) (loose : a.IsLoose id)
    {y : Nat} {name text : String} (isText : a.IsTextElement y name) (elsewhere : y ≠ p)
    (holds : a.HoldsText y text) : a'.HoldsText y text := by
  have kept := holdsText_detach loose isText holds
  simpa only [HoldsText, hangs.outside y elsewhere, hangs.kinds, kind?_detach] using kept

theorem admits_add (a : Arena) (kind : ItemKind) : Admits a (a.add kind).1 := by
  rintro id ⟨old, isKind, canHold⟩
  exact ⟨old, kind?_add_of_some isKind, canHold⟩

theorem holdsText_add {id : Nat} {text : String} (holds : a.HoldsText id text) (kind : ItemKind) :
    (a.add kind).1.HoldsText id text := by
  rw [HoldsText, children_add]
  rcases holds with empty | ⟨child, only, isChild⟩
  · exact Or.inl empty
  · exact Or.inr ⟨child, only, kind?_add_of_some isChild⟩

theorem holdsText_new (a : Arena) (kind : ItemKind) : (a.add kind).1.HoldsText (a.add kind).2 "" := by
  refine Or.inl ⟨?_, rfl⟩
  rw [children_add, Arena.add, children, Array.getElem?_eq_none (Nat.le_refl _)]
  rfl

theorem isLoose_new (a : Arena) (kind : ItemKind) : (a.add kind).1.IsLoose (a.add kind).2 := by
  intro p name isParent
  rw [parent?_add, add, parent?, Array.getElem?_eq_none (Nat.le_refl _)] at isParent
  cases isParent

theorem admits_lengthen {id : Nat} {old : String} (isText : a.kind? id = some (.text old))
    (text : String) : Admits a (a.lengthen id text) := by
  rintro x ⟨kind, isKind, canHold⟩
  have different : x ≠ id := by
    rintro rfl
    rw [isText] at isKind
    rw [← Option.some.inj isKind] at canHold
    cases canHold
  exact ⟨kind, by rw [kind?_lengthen_of_ne a different, isKind], canHold⟩

/-- A text element whose text is lengthened holds the longer text, and all others hold theirs. -/
theorem holdsText_lengthen {id : Nat} {old : String} (isText : a.kind? id = some (.text old))
    (text : String) {y : Nat} {held : String} (holds : a.HoldsText y held) :
    (a.lengthen id text).HoldsText y (if id ∈ a.children y then held ++ text else held) := by
  rcases holds with ⟨empty, rfl⟩ | ⟨child, only, isChild⟩
  · rw [if_neg (by simp [empty])]
    exact Or.inl ⟨by rwa [children_lengthen], rfl⟩
  · rw [HoldsText, children_lengthen, only]
    by_cases same : child = id
    · subst same
      rw [isText] at isChild
      cases isChild
      rw [if_pos (by simp)]
      exact Or.inr ⟨child, rfl, kind?_lengthen_self isText text⟩
    · rw [if_neg (by simpa using Ne.symm same)]
      exact Or.inr ⟨child, rfl, by rw [kind?_lengthen_of_ne a same, isChild]⟩

theorem isTextElement_modifyAttrs_iff {id : Nat} {f : Dict String → Dict String} {y : Nat}
    {name : String} :
    (a.modify id (modifyAttrs f)).IsTextElement y name ↔ a.IsTextElement y name := by
  rcases a.kind?_modifyAttrs id f y with kept | ⟨vocabulary, n, old, was, isNow⟩
  · rw [IsTextElement, kept]
    rfl
  · rw [IsTextElement, IsTextElement, was, isNow]
    simp

theorem holdsText_modifyAttrs (id : Nat) (f : Dict String → Dict String) {y : Nat} {text : String}
    (holds : a.HoldsText y text) : (a.modify id (modifyAttrs f)).HoldsText y text := by
  rw [HoldsText, children_modifyAttrs]
  rcases holds with empty | ⟨child, only, isChild⟩
  · exact Or.inl empty
  · refine Or.inr ⟨child, only, ?_⟩
    rcases a.kind?_modifyAttrs id f child with kept | ⟨vocabulary, n, old, was, -⟩
    · rw [kept, isChild]
    · rw [isChild] at was
      cases was

/-! ## Consistent trees -/

/-- Texts that are followed while a tree changes, each with the text element that holds it. -/
class FollowedTexts where
  holds (id : Nat) (name text : String) : Prop

variable [FollowedTexts]

/-- Whether a tree is consistent, and its text elements hold texts as they were cut off.  The text
of one of them may still be incomplete.  The texts that are followed are held as they were. -/
structure IsSoundBut (a : Arena) (incomplete : Option Nat) : Prop where
  linked : ∀ x p, x ∈ a.children p ↔ a.parent? x = some p
  texts : ∀ id name, a.IsTextElement id name →
    ∃ text, a.HoldsText id text ∧ (some id ≠ incomplete → IsCutOff name text)
  followed : ∀ id name text, FollowedTexts.holds id name text →
    some id ≠ incomplete ∧ a.HasText id name text

theorem IsSoundBut.weaken {a : Arena} (sound : a.IsSoundBut none) {id : Nat}
    (unfollowed : ∀ name text, ¬ FollowedTexts.holds id name text) : a.IsSoundBut (some id) where
  linked := sound.linked
  texts x name isText := by
    rcases sound.texts x name isText with ⟨text, holds, whole⟩
    exact ⟨text, holds, fun _ => whole (by rintro ⟨⟩)⟩
  followed x name text follows := by
    refine ⟨?_, (sound.followed x name text follows).2⟩
    rintro ⟨⟩
    exact unfollowed name text follows

/-- From any time on all texts can be followed. -/
theorem IsSoundBut.follow {a : Arena} (sound : a.IsSoundBut none) :
    @IsSoundBut ⟨a.HasText⟩ a none :=
  @IsSoundBut.mk ⟨a.HasText⟩ a none sound.linked sound.texts fun _ _ _ has => ⟨by rintro ⟨⟩, has⟩

/-- The texts that are followed are kept by what keeps the texts of all complete text elements. -/
theorem IsSoundBut.followed_of_keeps {a a' : Arena} {incomplete : Option Nat}
    (sound : a.IsSoundBut incomplete)
    (keeps : ∀ id name text, some id ≠ incomplete → a.IsTextElement id name → a.HoldsText id text →
      a'.HasText id name text) {id : Nat} {name text : String}
    (follows : FollowedTexts.holds id name text) :
    some id ≠ incomplete ∧ a'.HasText id name text := by
  rcases sound.followed id name text follows with ⟨complete, isText, holds⟩
  exact ⟨complete, keeps id name text complete isText holds⟩

theorem IsSoundBut.isLoose (sound : a.IsSoundBut incomplete) {id : Nat} (holds : a.CanHold id) :
    a.IsLoose id := by
  intro p name isParent isText
  rcases sound.texts p name isText with ⟨text, ⟨empty, -⟩ | ⟨child, only, isText⟩, -⟩
  · have member := (sound.linked id p).mpr isParent
    simp [empty] at member
  · have member := (sound.linked id p).mpr isParent
    rw [only] at member
    have same : id = child := by simpa using member
    subst same
    rcases holds with ⟨kind, isKind, canHold⟩
    rw [isText] at isKind
    rw [← Option.some.inj isKind] at canHold
    cases canHold

theorem IsSoundBut.detach (sound : a.IsSoundBut incomplete) {id : Nat} (loose : a.IsLoose id) :
    (a.detach id).IsSoundBut incomplete := by
  constructor
  · intro x p
    rw [children_detach, parent?_detach]
    by_cases same : x = id
    · subst same
      rw [if_pos rfl]
      split
      · simp
      · next elsewhere =>
          rw [sound.linked]
          exact iff_of_false elsewhere (by rintro ⟨⟩)
    · rw [if_neg same]
      split
      · rw [Array.mem_filter, sound.linked, bne_iff_ne]
        exact and_iff_left same
      · exact sound.linked x p
  · intro y name isText
    simp only [IsTextElement, kind?_detach] at isText
    rcases sound.texts y name isText with ⟨text, holds, whole⟩
    exact ⟨text, holdsText_detach loose isText holds, whole⟩
  · intro y name text follows
    apply sound.followed_of_keeps _ follows
    intro y name text _ isText holds
    exact ⟨by simpa only [IsTextElement, kind?_detach] using isText,
      holdsText_detach loose isText holds⟩

/-- An item may be hung below everything but a text element.  Below the incomplete text element it
may be hung if that holds one text then. -/
theorem IsSoundBut.hang {a' : Arena} {p id : Nat} (sound : a.IsSoundBut incomplete)
    (hangs : Hangs a a' p id) (loose : a.IsLoose id)
    (target : ∀ name, a.IsTextElement p name → some p = incomplete ∧ ∃ text, a'.HoldsText p text) :
    a'.IsSoundBut incomplete := by
  constructor
  · intro x y
    rw [hangs.parents]
    by_cases here : y = p
    · subst here
      rw [hangs.inside, sound.linked]
      split
      · next same =>
          simp [same]
      · next different =>
          exact or_iff_right different
    · rw [hangs.outside y here, (sound.detach loose).linked, parent?_detach]
      split
      · simp [Ne.symm here]
      · rfl
  · intro y name isText
    simp only [IsTextElement, hangs.kinds] at isText
    by_cases here : y = p
    · subst here
      rcases target name isText with ⟨isIncomplete, text, holds⟩
      exact ⟨text, holds, fun other => absurd isIncomplete other⟩
    · rcases sound.texts y name isText with ⟨text, holds, whole⟩
      exact ⟨text, hangs.holdsText loose isText here holds, whole⟩
  · intro y name text follows
    apply sound.followed_of_keeps _ follows
    intro y name text complete isText holds
    have elsewhere : y ≠ p := by
      rintro rfl
      exact complete (target name isText).1
    exact ⟨by simpa only [IsTextElement, hangs.kinds] using isText,
      hangs.holdsText loose isText elsewhere holds⟩

/-! ## What steps on a tree keep -/

/-- Whether a consistent tree differs from another in nothing but where items hang, and in the text
elements not at all. -/
structure Rearranges (incomplete : Option Nat) (a a' : Arena) : Prop where
  sound : a'.IsSoundBut incomplete
  kinds : ∀ x, a'.kind? x = a.kind? x
  texts : ∀ y name text, a.IsTextElement y name → a.HoldsText y text → a'.HoldsText y text

theorem Rearranges.admits {a' : Arena} (rearranges : Rearranges incomplete a a') : Admits a a' := by
  intro id holds
  rwa [CanHold, rearranges.kinds]

theorem Rearranges.trans {a' a'' : Arena} (first : Rearranges incomplete a a')
    (second : Rearranges incomplete a' a'') : Rearranges incomplete a a'' where
  sound := second.sound
  kinds x := (second.kinds x).trans (first.kinds x)
  texts y name text isText holds :=
    second.texts y name text (by rwa [IsTextElement, first.kinds]) (first.texts y name text isText holds)

theorem IsSoundBut.rearranges_detach (sound : a.IsSoundBut incomplete) {id : Nat}
    (loose : a.IsLoose id) : Rearranges incomplete a (a.detach id) where
  sound := sound.detach loose
  kinds := kind?_detach a id
  texts _ _ _ := holdsText_detach loose

theorem IsSoundBut.rearranges_hang {a' : Arena} {p id : Nat} (sound : a.IsSoundBut incomplete)
    (hangs : Hangs a a' p id) (loose : a.IsLoose id) (target : ∀ name, ¬ a.IsTextElement p name) :
    Rearranges incomplete a a' where
  sound := sound.hang hangs loose fun name isText => absurd isText (target name)
  kinds := hangs.kinds
  texts _ name _ isText :=
    hangs.holdsText loose isText fun same => target name (same ▸ isText)

theorem IsSoundBut.append {p id : Nat} (sound : a.IsSoundBut incomplete) (target : a.CanHold p)
    (present : (a.kind? id).isSome) (loose : a.IsLoose id) :
    Rearranges incomplete a (a.append p id) :=
  sound.rearranges_hang (hangs_append target.isSome present) loose target.not_isTextElement

theorem IsSoundBut.insertBefore {sibling id : Nat} (sound : a.IsSoundBut incomplete)
    (next : a.IsLoose sibling) (present : (a.kind? id).isSome) (loose : a.IsLoose id) :
    Rearranges incomplete a (a.insertBefore sibling id) := by
  cases isParent : (a.detach id).parent? sibling with
  | none =>
      have same : a.insertBefore sibling id = a.detach id := by rw [Arena.insertBefore, isParent]
      exact same ▸ sound.rearranges_detach loose
  | some p =>
      have among := ((sound.detach loose).linked sibling p).mpr isParent
      apply sound.rearranges_hang (hangs_insertBefore present isParent among) loose
      rw [parent?_detach] at isParent
      split at isParent
      · cases isParent
      · exact fun name => next p name isParent

theorem IsSoundBut.foldl_append (sound : a.IsSoundBut incomplete) {target : Nat}
    (holds : a.CanHold target) {moved : List Nat}
    (movable : ∀ c ∈ moved, (a.kind? c).isSome ∧ a.IsLoose c) :
    Rearranges incomplete a (moved.foldl (fun a c => a.append target c) a) := by
  induction moved generalizing a with
  | nil => exact ⟨sound, fun _ => rfl, fun _ _ _ _ holds => holds⟩
  | cons c moved inductionHypothesis =>
      rcases movable c List.mem_cons_self with ⟨present, loose⟩
      have step := sound.append holds present loose
      refine step.trans (inductionHypothesis step.sound (step.admits target holds) ?_)
      intro other member
      rcases movable other (List.mem_cons_of_mem c member) with ⟨presentOther, looseOther⟩
      refine ⟨by rw [step.kinds]; exact presentOther, ?_⟩
      intro p name isParent isText
      rw [IsTextElement, step.kinds] at isText
      rw [(hangs_append holds.isSome present).parents] at isParent
      split at isParent
      · exact holds.not_isTextElement name (Option.some.inj isParent ▸ isText)
      · exact looseOther p name isParent isText

theorem IsSoundBut.moveChildren (sound : a.IsSoundBut incomplete) {source target : Nat}
    (released : a.CanHold source) (holds : a.CanHold target) :
    Rearranges incomplete a (a.moveChildren source target) := by
  rw [Arena.moveChildren, ← Array.foldl_toList]
  apply sound.foldl_append holds
  intro c member
  have isParent := (sound.linked c source).mp (Array.mem_toList_iff.mp member)
  refine ⟨isSome_kind?_of_parent? isParent, ?_⟩
  intro p name isParent'
  rw [isParent] at isParent'
  exact Option.some.inj isParent' ▸ released.not_isTextElement name

/-- Whether a tree comes from another by a step that leaves it consistent. -/
structure Follows (incomplete : Option Nat) (a a' : Arena) : Prop where
  sound : a'.IsSoundBut incomplete
  admits : Admits a a'

theorem Rearranges.follows {a' : Arena} (rearranges : Rearranges incomplete a a') :
    Follows incomplete a a' := ⟨rearranges.sound, rearranges.admits⟩

/-- A new item holds nothing, so that a new text element holds the empty text. -/
theorem IsSoundBut.add (sound : a.IsSoundBut incomplete) (kind : ItemKind) :
    (a.add kind).1.IsSoundBut incomplete := by
  constructor
  · intro x p
    rw [children_add, parent?_add]
    exact sound.linked x p
  · intro id name isText
    rcases isText with ⟨member, attrs, isKind⟩
    rw [kind?_add] at isKind
    split at isKind
    · next new =>
        exact ⟨"", new ▸ a.holdsText_new kind, fun _ => isCutOff_empty name⟩
    · rcases sound.texts id name ⟨member, attrs, isKind⟩ with ⟨text, holds, whole⟩
      exact ⟨text, holdsText_add holds kind, whole⟩
  · intro id name text follows
    apply sound.followed_of_keeps _ follows
    rintro id name text - ⟨member, attrs, isKind⟩ holds
    exact ⟨⟨member, attrs, kind?_add_of_some isKind⟩, holdsText_add holds kind⟩

theorem IsSoundBut.isLoose_add (sound : a.IsSoundBut incomplete) {id : Nat} (loose : a.IsLoose id)
    (kind : ItemKind) : (a.add kind).1.IsLoose id := by
  intro p name isParent isText
  rw [parent?_add] at isParent
  rcases isText with ⟨member, attrs, isKind⟩
  rw [kind?_add] at isKind
  split at isKind
  · next new =>
      have among := (sound.linked id p).mpr isParent
      rw [new, children, Array.getElem?_eq_none (Nat.le_refl _)] at among
      simp at among
  · exact loose p name isParent ⟨member, attrs, isKind⟩

theorem IsSoundBut.lengthen (sound : a.IsSoundBut incomplete) {id : Nat} {old : String}
    (isText : a.kind? id = some (.text old))
    (apart : ∀ p name, a.parent? id = some p → a.IsTextElement p name → some p = incomplete)
    (text : String) : (a.lengthen id text).IsSoundBut incomplete := by
  constructor
  · intro x p
    rw [children_lengthen, parent?_lengthen]
    exact sound.linked x p
  · rintro y name ⟨member, attrs, isElement⟩
    have different : y ≠ id := by
      rintro rfl
      rw [kind?_lengthen_self isText] at isElement
      cases isElement
    rw [kind?_lengthen_of_ne a different] at isElement
    have wasText : a.IsTextElement y name := ⟨member, attrs, isElement⟩
    rcases sound.texts y name wasText with ⟨held, holds, whole⟩
    refine ⟨_, holdsText_lengthen isText text holds, fun complete => ?_⟩
    rw [if_neg fun among => complete (apart y name ((sound.linked id y).mp among) wasText)]
    exact whole complete
  · intro y name held follows
    apply sound.followed_of_keeps _ follows
    rintro y name held complete ⟨member, attrs, isElement⟩ holds
    have different : y ≠ id := by
      rintro rfl
      rw [isText] at isElement
      cases isElement
    have kept := holdsText_lengthen isText text holds
    rw [if_neg fun among =>
      complete (apart y name ((sound.linked id y).mp among) ⟨member, attrs, isElement⟩)] at kept
    exact ⟨⟨member, attrs, by rw [kind?_lengthen_of_ne a different, isElement]⟩, kept⟩

theorem IsSoundBut.appendText (sound : a.IsSoundBut incomplete) {p : Nat} (target : a.CanHold p)
    (text : String) : Follows incomplete a (a.appendText p text) := by
  have added := (sound.add (.text text)).append (admits_add a (.text text) p target)
    (by rw [kind?_new]; rfl) (isLoose_new a (.text text))
  have addedFollows : Follows incomplete a
      ((a.add (.text text)).1.append p (a.add (.text text)).2) :=
    ⟨added.sound, fun id holds => added.admits id (admits_add a _ id holds)⟩
  rw [Arena.appendText]
  split
  · next last isLast =>
      split
      · next isText =>
          rcases isText_eq_true_iff.mp isText with ⟨old, isKind⟩
          refine ⟨sound.lengthen isKind ?_ text, admits_lengthen isKind text⟩
          intro q name isParent isTextElement
          rw [(sound.linked last p).mp (Array.mem_of_back? isLast)] at isParent
          exact absurd (Option.some.inj isParent ▸ isTextElement) (target.not_isTextElement name)
      · exact addedFollows
  · exact addedFollows

theorem IsSoundBut.insertTextBefore (sound : a.IsSoundBut incomplete) {sibling : Nat}
    (next : a.IsLoose sibling) (text : String) :
    Follows incomplete a (a.insertTextBefore sibling text) := by
  have added := (sound.add (.text text)).insertBefore (sound.isLoose_add next (.text text))
    (by rw [kind?_new]; rfl) (isLoose_new a (.text text))
  have addedFollows : Follows incomplete a
      ((a.add (.text text)).1.insertBefore sibling (a.add (.text text)).2) :=
    ⟨added.sound, fun id holds => added.admits id (admits_add a _ id holds)⟩
  rw [Arena.insertTextBefore]
  split
  · next last isPrevious =>
      split
      · next isText =>
          rcases isText_eq_true_iff.mp isText with ⟨old, isKind⟩
          rcases exists_of_previous? isPrevious with ⟨p, isParent, among⟩
          refine ⟨sound.lengthen isKind ?_ text, admits_lengthen isKind text⟩
          intro q name isParentOfLast isTextElement
          rw [(sound.linked last p).mp among] at isParentOfLast
          exact absurd (Option.some.inj isParentOfLast ▸ isTextElement) (next p name isParent)
      · exact addedFollows
  · exact addedFollows

/-- Text may be put into the text element whose text is incomplete. -/
theorem IsSoundBut.appendText_incomplete {id : Nat} (sound : a.IsSoundBut (some id))
    {name held : String} (isElement : a.IsTextElement id name) (holds : a.HoldsText id held)
    (text : String) :
    Follows (some id) a (a.appendText id text) ∧ (a.appendText id text).HoldsText id (held ++ text) ∧
      (a.appendText id text).kind? id = a.kind? id := by
  rcases isElement with ⟨-, attrs, isKind⟩
  rcases holds with ⟨empty, rfl⟩ | ⟨child, only, isChild⟩
  · have result : a.appendText id text =
        (a.add (.text text)).1.append id (a.add (.text text)).2 := by
      rw [Arena.appendText, empty]
      rfl
    have isKindNow : (a.add (.text text)).1.kind? id = some (.element .page name attrs) :=
      kind?_add_of_some isKind
    have hangs := hangs_append (by rw [isKindNow]; rfl)
      (by rw [kind?_new a (.text text)]; rfl : ((a.add (.text text)).1.kind? _).isSome)
    have noParent : (a.add (.text text)).1.parent? (a.add (.text text)).2 = none := by
      rw [parent?_add, Arena.add, parent?, Array.getElem?_eq_none (Nat.le_refl _)]
      rfl
    have holdsNow : ((a.add (.text text)).1.append id (a.add (.text text)).2).HoldsText id
        ("" ++ text) := by
      refine Or.inr ⟨(a.add (.text text)).2, ?_, ?_⟩
      · rw [children_append_self (by rw [isKindNow]; rfl), children_detach, noParent,
          if_neg (by rintro ⟨⟩), children_add, empty]
        rfl
      · rw [hangs.kinds, kind?_new, String.empty_append]
    rw [result]
    refine ⟨⟨?_, ?_⟩, holdsNow, ?_⟩
    · exact (sound.add _).hang hangs (isLoose_new a _) fun _ _ => ⟨rfl, _, holdsNow⟩
    · rintro x admitted
      rw [CanHold, hangs.kinds]
      exact admits_add a _ x admitted
    · rw [hangs.kinds, isKindNow, isKind]
  · have result : a.appendText id text = a.lengthen child text := by
      rw [Arena.appendText, only]
      exact if_pos (isText_eq_true_iff.mpr ⟨held, isChild⟩)
    have different : id ≠ child := by
      rintro rfl
      rw [isKind] at isChild
      cases isChild
    rw [result]
    refine ⟨⟨sound.lengthen isChild ?_ text, admits_lengthen isChild text⟩, ?_, ?_⟩
    · intro p name isParent _
      have parent : a.parent? child = some id := by
        rw [← sound.linked, only]
        simp
      rw [← isParent, parent]
    · exact Or.inr ⟨child, by rw [children_lengthen, only], kind?_lengthen_self isChild text⟩
    · exact kind?_lengthen_of_ne a different text

theorem IsSoundBut.modifyAttrs (sound : a.IsSoundBut incomplete) (id : Nat)
    (f : Dict String → Dict String) : Follows incomplete a (a.modify id (modifyAttrs f)) where
  sound := by
    constructor
    · intro x p
      rw [children_modifyAttrs, parent?_modifyAttrs]
      exact sound.linked x p
    · intro y name isText
      rw [isTextElement_modifyAttrs_iff] at isText
      rcases sound.texts y name isText with ⟨text, holds, whole⟩
      exact ⟨text, holdsText_modifyAttrs id f holds, whole⟩
    · intro y name text follows
      apply sound.followed_of_keeps _ follows
      intro y name text _ isText holds
      exact ⟨isTextElement_modifyAttrs_iff.mpr isText, holdsText_modifyAttrs id f holds⟩
  admits := by
    rintro x ⟨kind, isKind, canHold⟩
    rcases a.kind?_modifyAttrs id f x with kept | ⟨vocabulary, name, attrs, was, isNow⟩
    · exact ⟨kind, kept ▸ isKind, canHold⟩
    · rw [was] at isKind
      cases isKind
      exact ⟨_, isNow, canHold⟩

end Arena

end Markup
end Folio
