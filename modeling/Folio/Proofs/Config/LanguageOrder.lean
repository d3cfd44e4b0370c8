import Folio.Proofs.Config.ConfiguredVariable
import Folio.Proofs.Text.Lowercase

namespace Folio

/-!
# Languages in another order

The languages of a settings file are gone through in no fixed order when the file is laid over a
configuration.  Their keys are written in small letters then, and what were two keys may become one.
Of such keys the one that comes last is heard.

So any of their languages may be the one that an extension is given, and which one it is does not
depend on the order exactly if they are all the same.  In a run this counts for the last file that
says something about the extension, if no override does so after it: whatever was said before is
forgotten.
-/

namespace Table

variable {κ α : Type} [DecidableEq κ]

/-- Of the entries that are put under a key the last one is found. -/
theorem get?_insertAll_eq_or (d : Table κ α) (l : List (κ × α)) (k : κ) :
    (d.insertAll l).get? k = (l.reverse.lookup k).or (d.get? k) := by
  induction l generalizing d with
  | nil => rfl
  | cons e rest inductionHypothesis =>
      obtain ⟨key, value⟩ := e
      change ((d.insert key value).insertAll rest).get? k = _
      rw [inductionHypothesis, get?_insert, List.reverse_cons, List.lookup_append, Option.or_assoc]
      congr 1
      by_cases same : k = key
      · rw [if_pos same, same, List.lookup_cons_self, Option.some_or]
      · rw [if_neg same, List.lookup_cons, beq_false_of_ne same]
        rfl

theorem get?_eq_of_perm {one two : Table κ α} (same : one.entries.Perm two.entries) (k : κ) :
    one.get? k = two.get? k := by
  apply Option.ext
  intro value
  rw [get?_eq_some_iff, get?_eq_some_iff, same.mem_iff]

end Table

/-- A table with one of its entries moved to the end. -/
theorem Table.exists_perm_append_singleton {κ α : Type} (d : Table κ α) {e : κ × α}
    (member : e ∈ d.entries) :
    ∃ (moved : Table κ α) (others : List (κ × α)),
      moved.entries = others ++ [e] ∧ moved.entries.Perm d.entries := by
  rcases List.append_of_mem member with ⟨front, back, split⟩
  have same : (front ++ back ++ [e]).Perm d.entries := by
    rw [split]
    exact (List.perm_append_singleton e (front ++ back)).trans List.perm_middle.symm
  have nodup := (same.map Prod.fst).nodup_iff.mpr d.nodup
  exact ⟨⟨front ++ back ++ [e], nodup⟩, front ++ back, rfl, same⟩

namespace ConfigFile

variable (file : ConfigFile) (extension : String)

def withLanguages (languages : Dict String) : ConfigFile := { file with languages }

/-- The language that a file gives to an extension when its languages are gone through in the order
in which they stand. -/
def lastLanguage? : Option String := file.loweredLanguages.reverse.lookup extension

/-- Whether all keys of a file that become an extension in small letters have the same language. -/
def AgreesOn : Prop :=
  ∀ one two, (extension, one) ∈ file.loweredLanguages → (extension, two) ∈ file.loweredLanguages →
    one = two

variable {file extension}

theorem perm_loweredLanguages {languages : Dict String}
    (same : languages.entries.Perm file.languages.entries) :
    (file.withLanguages languages).loweredLanguages.Perm file.loweredLanguages :=
  same.map _

theorem mem_loweredLanguages_of_lastLanguage?_eq_some {language : String}
    (last : file.lastLanguage? extension = some language) :
    (extension, language) ∈ file.loweredLanguages :=
  List.mem_reverse.mp (Table.mem_of_lookup_eq_some last)

theorem lastLanguage?_eq_none_iff :
    file.lastLanguage? extension = none ↔ extension ∉ file.loweredLanguages.map Prod.fst := by
  rw [lastLanguage?, Table.lookup_eq_none_iff_not_mem, List.map_reverse, List.mem_reverse]

/-- Some order of the languages lets each of the languages be heard that are given to an
extension. -/
theorem exists_lastLanguage?_eq_some {language : String}
    (member : (extension, language) ∈ file.loweredLanguages) :
    ∃ languages : Dict String, languages.entries.Perm file.languages.entries ∧
      (file.withLanguages languages).lastLanguage? extension = some language := by
  rcases List.mem_map.mp member with ⟨e, inFile, lowered⟩
  rcases file.languages.exists_perm_append_singleton inFile with ⟨moved, others, atEnd, same⟩
  refine ⟨moved, same, ?_⟩
  change ((moved.entries.map fun e => (Text.lowercase e.1, e.2)).reverse).lookup extension = _
  rw [atEnd, List.map_append, List.map_singleton, lowered, List.reverse_append,
    List.reverse_singleton, List.singleton_append, List.lookup_cons_self]

/-- Where the keys agree the order does not matter. -/
theorem lastLanguage?_withLanguages_of_agreesOn (agrees : file.AgreesOn extension)
    {languages : Dict String} (same : languages.entries.Perm file.languages.entries) :
    (file.withLanguages languages).lastLanguage? extension = file.lastLanguage? extension := by
  have lowered := perm_loweredLanguages same
  cases here : file.lastLanguage? extension with
  | none =>
      rw [lastLanguage?_eq_none_iff] at here ⊢
      rwa [(lowered.map Prod.fst).mem_iff]
  | some language =>
      cases there : (file.withLanguages languages).lastLanguage? extension with
      | none =>
          rw [lastLanguage?_eq_none_iff, (lowered.map Prod.fst).mem_iff,
            ← lastLanguage?_eq_none_iff, here] at there
          cases there
      | some other =>
          have mentioned := lowered.mem_iff.mp (mem_loweredLanguages_of_lastLanguage?_eq_some there)
          rw [agrees other language mentioned (mem_loweredLanguages_of_lastLanguage?_eq_some here)]

end ConfigFile

theorem Config.get?_languages_merge (c : Config) (file : ConfigFile) (extension : String) :
    (c.merge file).languages.get? extension =
      (file.lastLanguage? extension).or (c.languages.get? extension) :=
  c.languages.get?_insertAll_eq_or file.loweredLanguages extension

theorem ConfigKey.lowercase_of_ofText?_eq_languageOf {key extension : String}
    (named : ofText? key = some (.languageOf extension)) :
    Text.lowercase extension = extension := by
  unfold ofText? at named
  split at named
  case h_8 =>
    unfold ofEntryText? at named
    split at named
    · cases named
      exact Text.lowercase_lowercase _
    · split at named <;> cases named
  all_goals cases named

theorem lowercase_of_overrideSays?_eq_some {text extension : String} {said : Option String}
    (spoken : overrideSays? text (.languageOf extension) = some said) :
    Text.lowercase extension = extension := by
  unfold overrideSays? at spoken
  split at spoken
  · cases spoken
  · split at spoken
    · next named => exact ConfigKey.lowercase_of_ofText?_eq_languageOf named
    · cases spoken

theorem Config.get?_allLanguages_of_perm {languages known : Dict String}
    (same : languages.entries.Perm known.entries)
    (small : ∀ key ∈ known.keys, Text.lowercase key = key) (c : Config) (extension : String) :
    ({ c with languages } : Config).allLanguages.get? extension =
      (known.get? extension).or (defaultLanguages.get? extension) := by
  have lowered :
      (languages.entries.map fun e => (Text.lowercase e.1, e.2)) = languages.entries := by
    conv_rhs => rw [← List.map_id languages.entries]
    apply List.map_congr_left
    intro e member
    rw [small e.1 (List.mem_map_of_mem (same.mem_iff.mp member))]
    rfl
  change (defaultLanguages.insertAll (languages.entries.map _)).get? extension = _
  rw [lowered, Table.get?_insertAll _ languages.nodup, ← Table.get?_eq_of_perm same]
  rfl

namespace ConfigChange

/-- A change with the languages of its file, if it has one, in some order. -/
inductive Reordered : ConfigChange → ConfigChange → Prop
  | merge {file : ConfigFile} {languages : Dict String}
      (same : languages.entries.Perm file.languages.entries) :
      Reordered (merge file) (merge (file.withLanguages languages))
  | overrides (texts : List String) : Reordered (overrides texts) (overrides texts)

theorem Reordered.refl : ∀ change : ConfigChange, Reordered change change
  | .merge _ => .merge (List.Perm.refl _)
  | .overrides texts => .overrides texts

variable (extension : String)

/-- What a change says of the language of an extension. -/
def languageSaid? : ConfigChange → Option (Option String)
  | merge file => (file.lastLanguage? extension).map some
  | overrides texts =>
    lastSaid? (overrideSays? · (.languageOf extension)) (Config.appliedOverrides texts)

theorem get?_languages_applyTo (c : Config) (change : ConfigChange) :
    (change.applyTo c).languages.get? extension =
      (change.languageSaid? extension).getD (c.languages.get? extension) := by
  cases change with
  | merge file =>
      change (c.merge file).languages.get? extension =
        ((file.lastLanguage? extension).map some).getD _
      rw [c.get?_languages_merge]
      cases file.lastLanguage? extension <;> rfl
  | overrides texts => exact c.valueAt_applyOverrides texts (.languageOf extension)

theorem get?_languages_run (changes : List ConfigChange) :
    (run changes).languages.get? extension =
      (lastSaid? (languageSaid? extension) changes).getD none :=
  foldl_eq_lastSaid? (fun c => c.languages.get? extension)
    (fun c change => get?_languages_applyTo extension c change) {} changes

variable {extension}

/-- What is said of the language of an extension is said of one in small letters. -/
theorem lowercase_of_languageSaid?_eq_some {change : ConfigChange} {said : Option String}
    (spoken : change.languageSaid? extension = some said) :
    Text.lowercase extension = extension := by
  cases change with
  | merge file =>
      rcases Option.map_eq_some_iff.mp spoken with ⟨language, last, -⟩
      have member := ConfigFile.mem_loweredLanguages_of_lastLanguage?_eq_some last
      rcases List.mem_map.mp member with ⟨e, -, lowered⟩
      rw [← (Prod.mk.inj lowered).1, Text.lowercase_lowercase]
  | overrides texts =>
      rcases List.exists_of_findSome?_eq_some spoken with ⟨text, -, overridden⟩
      exact lowercase_of_overrideSays?_eq_some overridden

/-- The extensions that a run knows are written in small letters. -/
theorem lowercase_of_mem_keys_run {changes : List ConfigChange}
    (known : extension ∈ (run changes).languages.keys) : Text.lowercase extension = extension := by
  have found : (run changes).languages.get? extension ≠ none := by
    rw [Table.get?, ne_eq, Table.lookup_eq_none_iff_not_mem, not_not]
    exact known
  rw [get?_languages_run] at found
  cases said : lastSaid? (languageSaid? extension) changes with
  | none =>
      rw [said] at found
      exact absurd rfl found
  | some said =>
      rcases List.exists_of_findSome?_eq_some said with ⟨change, -, spoken⟩
      exact lowercase_of_languageSaid?_eq_some spoken

/-- In whatever order the languages of files are gone through, the same is said where the last file
that says something agrees. -/
theorem lastSaid?_languageSaid?_of_reordered {changes again : List ConfigChange}
    (reordered : List.Forall₂ Reordered changes again)
    (agree : ∀ earlier file later, changes = earlier ++ merge file :: later →
      (∀ change ∈ later, change.languageSaid? extension = none) → file.AgreesOn extension) :
    lastSaid? (languageSaid? extension) again = lastSaid? (languageSaid? extension) changes := by
  induction reordered with
  | nil => rfl
  | @cons change other later laterAgain first rest inductionHypothesis =>
      have laterSame := inductionHypothesis fun earlier file behind split silent =>
        agree (change :: earlier) file behind (by rw [split, List.cons_append]) silent
      rw [lastSaid?_cons, lastSaid?_cons, laterSame]
      cases said : lastSaid? (languageSaid? extension) later with
      | some _ => rfl
      | none =>
          cases first with
          | @merge file languages same =>
              have silent : ∀ change ∈ later, change.languageSaid? extension = none := by
                intro change member
                exact List.findSome?_eq_none_iff.mp said change (List.mem_reverse.mpr member)
              have agrees := agree [] file later rfl silent
              rw [languageSaid?, languageSaid?,
                ConfigFile.lastLanguage?_withLanguages_of_agreesOn agrees same]
          | overrides texts => rfl

/-- Where the last file that says something of an extension has two languages for it, either may be
the one. -/
theorem exists_reordered_get?_languages_run {earlier later : List ConfigChange} {file : ConfigFile}
    (silent : ∀ change ∈ later, change.languageSaid? extension = none) {language : String}
    (member : (extension, language) ∈ file.loweredLanguages) :
    ∃ again, List.Forall₂ Reordered (earlier ++ merge file :: later) again ∧
      (run again).languages.get? extension = some language := by
  rcases ConfigFile.exists_lastLanguage?_eq_some member with ⟨languages, same, last⟩
  refine ⟨earlier ++ merge (file.withLanguages languages) :: later, ?_, ?_⟩
  · have unchanged : ∀ changes : List ConfigChange, List.Forall₂ Reordered changes changes :=
      fun changes => List.forall₂_same.mpr fun change _ => Reordered.refl change
    exact List.rel_append (unchanged earlier) (.cons (.merge same) (unchanged later))
  · rw [get?_languages_run, lastSaid?_append_cons silent, languageSaid?, last]
    rfl

end ConfigChange

/-! ## Orders that matter -/

/-- The languages that an extension may have when a file is laid over a configuration. -/
theorem Config.exists_merge_withLanguages_iff (c : Config) (file : ConfigFile) (extension : String)
    (language : Option String) :
    (∃ languages : Dict String, languages.entries.Perm file.languages.entries ∧
      (c.merge (file.withLanguages languages)).languages.get? extension = language) ↔
    (∃ l, language = some l ∧ (extension, l) ∈ file.loweredLanguages) ∨
      extension ∉ file.loweredLanguages.map Prod.fst ∧ language = c.languages.get? extension := by
  constructor
  · rintro ⟨languages, same, rfl⟩
    have lowered := ConfigFile.perm_loweredLanguages same
    rw [c.get?_languages_merge]
    cases last : (file.withLanguages languages).lastLanguage? extension with
    | none =>
        rw [ConfigFile.lastLanguage?_eq_none_iff, (lowered.map Prod.fst).mem_iff] at last
        exact .inr ⟨last, rfl⟩
    | some l =>
        have member := ConfigFile.mem_loweredLanguages_of_lastLanguage?_eq_some last
        exact .inl ⟨l, rfl, lowered.mem_iff.mp member⟩
  · rintro (⟨l, rfl, member⟩ | ⟨silent, rfl⟩)
    · rcases ConfigFile.exists_lastLanguage?_eq_some member with ⟨languages, same, last⟩
      refine ⟨languages, same, ?_⟩
      rw [c.get?_languages_merge, last, Option.some_or]
    · refine ⟨file.languages, List.Perm.refl _, ?_⟩
      rw [c.get?_languages_merge]
      change (file.lastLanguage? extension).or _ = _
      rw [ConfigFile.lastLanguage?_eq_none_iff.mpr silent, Option.none_or]

/-- A file can be laid over a configuration with one outcome only, whatever the order. -/
theorem Config.merge_withLanguages_alike_iff (c : Config) (file : ConfigFile) (extension : String) :
    (∀ one two : Dict String, one.entries.Perm file.languages.entries →
      two.entries.Perm file.languages.entries →
        (c.merge (file.withLanguages one)).languages.get? extension =
          (c.merge (file.withLanguages two)).languages.get? extension) ↔
    file.AgreesOn extension := by
  constructor
  · intro alike l l' member member'
    rcases (c.exists_merge_withLanguages_iff file extension (some l)).mpr (.inl ⟨l, rfl, member⟩)
      with ⟨one, sameOne, first⟩
    rcases (c.exists_merge_withLanguages_iff file extension (some l')).mpr
      (.inl ⟨l', rfl, member'⟩) with ⟨two, sameTwo, second⟩
    have equal := alike one two sameOne sameTwo
    rw [first, second] at equal
    exact Option.some.inj equal
  · intro agrees one two sameOne sameTwo
    rw [c.get?_languages_merge, c.get?_languages_merge,
      ConfigFile.lastLanguage?_withLanguages_of_agreesOn agrees sameOne,
      ConfigFile.lastLanguage?_withLanguages_of_agreesOn agrees sameTwo]

namespace ConfigChange

theorem get?_allLanguages_run {changes : List ConfigChange} {languages : Dict String}
    (same : languages.entries.Perm (run changes).languages.entries) (extension : String) :
    ({ run changes with languages } : Config).allLanguages.get? extension =
      ((run changes).languages.get? extension).or (defaultLanguages.get? extension) :=
  Config.get?_allLanguages_of_perm same (fun _ known => lowercase_of_mem_keys_run known) _ extension

/-- Two runs resolve an extension alike, whatever the orders. -/
theorem run_alike_iff (changes : List ConfigChange) (extension : String) :
    (∀ first second, List.Forall₂ Reordered changes first → List.Forall₂ Reordered changes second →
      ∀ one two : Dict String, one.entries.Perm (run first).languages.entries →
        two.entries.Perm (run second).languages.entries →
          ({ run first with languages := one } : Config).allLanguages.get? extension =
            ({ run second with languages := two } : Config).allLanguages.get? extension) ↔
    ∀ earlier file later, changes = earlier ++ merge file :: later →
      (∀ change ∈ later, change.languageSaid? extension = none) → file.AgreesOn extension := by
  constructor
  · rintro alike earlier file later rfl silent l l' member member'
    rcases exists_reordered_get?_languages_run silent member with ⟨first, sameFirst, found⟩
    rcases exists_reordered_get?_languages_run silent member' with ⟨second, sameSecond, found'⟩
    have equal := alike first second sameFirst sameSecond _ _ (List.Perm.refl _) (List.Perm.refl _)
    rw [get?_allLanguages_run (List.Perm.refl _), get?_allLanguages_run (List.Perm.refl _), found,
      found'] at equal
    exact Option.some.inj equal
  · intro agree first second sameFirst sameSecond one two sameOne sameTwo
    rw [get?_allLanguages_run sameOne, get?_allLanguages_run sameTwo, get?_languages_run,
      get?_languages_run, lastSaid?_languageSaid?_of_reordered sameFirst agree,
      lastSaid?_languageSaid?_of_reordered sameSecond agree]

end ConfigChange

/-- Each language of a file that an extension has by some key of it may be the one that the
extension is given when the file is laid over a configuration, and no other; without such a key it
keeps what it has.  So the order of the languages does not matter exactly if the keys that become
the extension agree.  And two runs with the same files and overrides, in each of which the languages
of the files and those of the configuration are gone through in any order, resolve the extension
alike exactly if the last file that says something about it agrees, or an override does so later. -/
theorem ConfigChange.resolve_alike_iff (extension : String) :
    (∀ (c : Config) (file : ConfigFile) (language : Option String),
      (∃ languages : Dict String, languages.entries.Perm file.languages.entries ∧
        (c.merge (file.withLanguages languages)).languages.get? extension = language) ↔
      (∃ l, language = some l ∧ (extension, l) ∈ file.loweredLanguages) ∨
        extension ∉ file.loweredLanguages.map Prod.fst ∧
          language = c.languages.get? extension) ∧
      (∀ (c : Config) (file : ConfigFile),
        (∀ one two : Dict String, one.entries.Perm file.languages.entries →
          two.entries.Perm file.languages.entries →
            (c.merge (file.withLanguages one)).languages.get? extension =
              (c.merge (file.withLanguages two)).languages.get? extension) ↔
        file.AgreesOn extension) ∧
      ∀ changes : List ConfigChange,
        (∀ first second, List.Forall₂ Reordered changes first →
          List.Forall₂ Reordered changes second →
            ∀ one two : Dict String, one.entries.Perm (run first).languages.entries →
              two.entries.Perm (run second).languages.entries →
                ({ run first with languages := one } : Config).allLanguages.get? extension =
                  ({ run second with languages := two } : Config).allLanguages.get? extension) ↔
        ∀ earlier file later, changes = earlier ++ merge file :: later →
          (∀ change ∈ later, change.languageSaid? extension = none) →
            file.AgreesOn extension :=
  ⟨fun c file language => c.exists_merge_withLanguages_iff file extension language,
    fun c file => c.merge_withLanguages_alike_iff file extension,
    fun changes => run_alike_iff changes extension⟩

/-- A file with two spellings of one extension. -/
def twoSpellings : ConfigFile where
  languages := Dict.ofList [("RS", "ruby"), ("rs", "rust")]

/-- A file with two spellings of an extension gives it the one language or the other. -/
theorem not_forall_merge_withLanguages_alike :
    ¬ ∀ (c : Config) (file : ConfigFile) (one two : Dict String),
      one.entries.Perm file.languages.entries → two.entries.Perm file.languages.entries →
        ∀ extension, (c.merge (file.withLanguages one)).languages.get? extension =
          (c.merge (file.withLanguages two)).languages.get? extension := by
  intro alike
  have equal := alike {} twoSpellings (Dict.ofList [("RS", "ruby"), ("rs", "rust")])
    (Dict.ofList [("rs", "rust"), ("RS", "ruby")]) (List.Perm.refl _) (List.Perm.swap _ _ _) "rs"
  exact absurd equal (by decide +kernel)

end Folio
