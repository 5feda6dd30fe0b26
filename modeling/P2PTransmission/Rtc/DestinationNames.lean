import Mathlib.Algebra.Ring.Nat
import Mathlib.Data.Finset.Card
import Mathlib.Data.Finset.Image
import Mathlib.Data.List.Nodup
import Mathlib.Data.List.TakeWhile

/-!
# Names of the saved files

`unique_destination_names` of the streaming storage: the files of one batch are saved into one directory, each under
its own name. A name that is taken already gets the first free number.

The module of the source is built for wasm32 only. The length of a slice there is a `usize` of 32 bits (`Names`), and
the number of a copy is a `u32`, which wraps around; `nextFree` counts it so.
-/

set_option autoImplicit false

namespace P2PTransmission.Rtc

/-! ## Model -/

/-- A slice of names, as the target can hold one. -/
structure Names where
  names : List String
  length_lt : names.length < 2 ^ 32

/-- `rsplit_once('.')`: the text before and after the last dot. -/
def rsplitDot (name : String) : Option (String × String) :=
  match name.toList.reverse.dropWhile (· ≠ '.') with
  | [] => none
  | _ :: before =>
    some (String.ofList before.reverse, String.ofList (name.toList.reverse.takeWhile (· ≠ '.')).reverse)

/-- The stem and the extension: a leading dot does not start an extension. -/
def splitName (name : String) : String × String :=
  match rsplitDot name with
  | some (stem, extension) => if stem = "" then (name, "") else (stem, extension)
  | none => (name, "")

def candidate (stem extension : String) (suffix : Nat) : String :=
  if extension = "" then stem ++ " (" ++ suffix.repr ++ ")"
  else stem ++ " (" ++ suffix.repr ++ ")." ++ extension

/-- The loop over the suffixes; `none` when it is still running after that many rounds. -/
def nextFree (used : Finset String) (stem extension : String) : Nat → Nat → Option String
  | 0, _ => none
  | fuel + 1, suffix =>
    if candidate stem extension suffix ∈ used then nextFree used stem extension fuel ((suffix + 1) % 2 ^ 32)
    else some (candidate stem extension suffix)

def destinationName (fuel : Nat) (used : Finset String) (name : String) : Option String :=
  if name ∈ used then nextFree used (splitName name).1 (splitName name).2 fuel 2 else some name

/-- The names in turn: each one that is given out is `used` from then on. -/
def destinationNames (fuel : Nat) : Finset String → List String → Option (List String)
  | _, [] => some []
  | used, name :: names => do
    let destination ← destinationName fuel used name
    let others ← destinationNames fuel (insert destination used) names
    return destination :: others

def uniqueDestinationNames (fuel : Nat) (names : List String) : Option (List String) :=
  destinationNames fuel ∅ names

/-! ## Stem and extension -/

/-- **The name is the stem, and the part after the last dot if the stem before it is not empty.** -/
inductive Splits (name : String) : String → String → Prop
  | whole (h : ∀ stem extension, name = stem ++ "." ++ extension → '.' ∉ extension.toList → stem = "") :
      Splits name name ""
  | dotted {stem extension : String} (h : name = stem ++ "." ++ extension) (hlast : '.' ∉ extension.toList)
      (hstem : stem ≠ "") : Splits name stem extension

/-- The parts around the last dot, and the list they make up. -/
theorem reverse_split {text before after : List Char} (h : text.reverse.dropWhile (· ≠ '.') = '.' :: before)
    (hafter : text.reverse.takeWhile (· ≠ '.') = after) : text = before.reverse ++ '.' :: after.reverse := by
  have htext : text.reverse = after ++ '.' :: before := by
    rw [← hafter, ← h, List.takeWhile_append_dropWhile]
  have hback := congrArg List.reverse htext
  simpa using hback

theorem dropWhile_dot {text : List Char} {c : Char} {rest : List Char}
    (h : text.dropWhile (· ≠ '.') = c :: rest) : c = '.' := by
  have hhead := List.head?_dropWhile_not (· ≠ '.') text
  rw [h] at hhead
  simpa using hhead

/-- The last dot is where the name is split. -/
theorem rsplitDot_some {name stem extension : String} (h : rsplitDot name = some (stem, extension)) :
    name = stem ++ "." ++ extension ∧ '.' ∉ extension.toList := by
  unfold rsplitDot at h
  cases hback : name.toList.reverse.dropWhile (· ≠ '.') with
  | nil =>
    rw [hback] at h
    cases h
  | cons c before =>
    obtain rfl := dropWhile_dot hback
    rw [hback] at h
    simp only [Option.some.injEq, Prod.mk.injEq] at h
    obtain ⟨rfl, rfl⟩ := h
    constructor
    · have hname := reverse_split hback rfl
      apply String.toList_inj.mp
      calc name.toList = _ := hname
        _ = _ := by simp
    · intro hdot
      rw [String.toList_ofList, List.mem_reverse] at hdot
      simpa using List.mem_takeWhile_imp hdot

/-- A name that is not split has no dot. -/
theorem rsplitDot_none {name : String} (h : rsplitDot name = none) : '.' ∉ name.toList := by
  unfold rsplitDot at h
  cases hback : name.toList.reverse.dropWhile (· ≠ '.') with
  | nil =>
    intro hdot
    have hall := List.dropWhile_eq_nil_iff.mp hback
    simpa using hall '.' (List.mem_reverse.mpr hdot)
  | cons c before =>
    rw [hback] at h
    cases h

/-- There is one last dot only. -/
theorem last_dot_unique {stem extension stem' extension' : String}
    (h : stem ++ "." ++ extension = stem' ++ "." ++ extension') (hlast : '.' ∉ extension.toList)
    (hlast' : '.' ∉ extension'.toList) : stem = stem' := by
  have hlist := congrArg String.toList h
  simp only [String.toList_append] at hlist
  rcases List.append_eq_append_iff.mp (by simpa [List.append_assoc] using hlist) with
    ⟨more, hstem, hrest⟩ | ⟨more, hstem, hrest⟩
  · cases more with
    | nil => exact String.toList_inj.mp (by simpa using hstem.symm)
    | cons c more =>
      exfalso
      simp only [List.cons_append, List.cons.injEq] at hrest
      exact hlast (by rw [hrest.2]; simp)
  · cases more with
    | nil => exact String.toList_inj.mp (by simpa using hstem)
    | cons c more =>
      exfalso
      simp only [List.cons_append, List.cons.injEq] at hrest
      exact hlast' (by rw [hrest.2]; simp)

theorem splitName_splits (name : String) : Splits name (splitName name).1 (splitName name).2 := by
  unfold splitName
  cases hsplit : rsplitDot name with
  | none =>
    refine .whole fun stem extension hname _ => ?_
    exfalso
    apply rsplitDot_none hsplit
    rw [hname]
    simp
  | some parts =>
    obtain ⟨stem, extension⟩ := parts
    obtain ⟨hname, hlast⟩ := rsplitDot_some hsplit
    by_cases hstem : stem = ""
    · simp only [hstem, if_true]
      refine .whole fun stem' extension' hname' hlast' => ?_
      rw [← last_dot_unique (hname.symm.trans hname') hlast hlast', hstem]
    · simp only [hstem, if_false]
      exact .dotted hname hlast hstem

/-! ## Candidates -/

theorem candidate_toList (stem extension : String) (suffix : Nat) : ∃ tail,
    (candidate stem extension suffix).toList = stem.toList ++ ([' ', '('] ++ (suffix.repr.toList ++ tail)) ∧
      ∀ suffix', (candidate stem extension suffix').toList =
        stem.toList ++ ([' ', '('] ++ (suffix'.repr.toList ++ tail)) := by
  by_cases hextension : extension = ""
  · refine ⟨[')'], ?_, fun suffix' => ?_⟩ <;> simp [candidate, hextension]
  · refine ⟨[')', '.'] ++ extension.toList, ?_, fun suffix' => ?_⟩ <;> simp [candidate, hextension]

/-- Two numbers, two names. -/
theorem candidate_injective (stem extension : String) : Function.Injective (candidate stem extension) := by
  intro suffix suffix' h
  obtain ⟨tail, hsuffix, hother⟩ := candidate_toList stem extension suffix
  have hlist := congrArg String.toList h
  rw [hsuffix, hother suffix'] at hlist
  have hdigits := List.append_cancel_right (List.append_cancel_left (List.append_cancel_left hlist))
  rw [Nat.toList_repr, Nat.toList_repr] at hdigits
  have hnumber := congrArg (fun digits => Nat.ofDigitChars 10 digits 0) hdigits
  simpa using hnumber

/-- A numbered name is longer than the name. -/
theorem length_lt_candidate {name stem extension : String} (h : Splits name stem extension) (suffix : Nat) :
    name.toList.length < (candidate stem extension suffix).toList.length := by
  cases h with
  | whole h => simp [candidate]
  | dotted hname hlast hstem =>
    rw [hname]
    by_cases hextension : extension = ""
    · simp [candidate, hextension]
    · simp [candidate, hextension]; omega

theorem candidate_ne_name {name stem extension : String} (h : Splits name stem extension) (suffix : Nat) :
    candidate stem extension suffix ≠ name := by
  intro hname
  have hlonger := length_lt_candidate h suffix
  rw [hname] at hlonger
  omega

/-! ## The loop -/

/-- What the loop returns is free, and it is a candidate that the numbers reached before they wrap around. -/
theorem nextFree_some {used : Finset String} {stem extension found : String} : ∀ {fuel suffix : Nat},
    suffix + fuel ≤ 2 ^ 32 → nextFree used stem extension fuel suffix = some found →
    found ∉ used ∧ ∃ number, suffix ≤ number ∧ found = candidate stem extension number
  | 0, _, _, h => by cases h
  | fuel + 1, suffix, hbound, h => by
    unfold nextFree at h
    by_cases hused : candidate stem extension suffix ∈ used
    · rw [if_pos hused] at h
      cases fuel with
      | zero => cases h
      | succ fuel =>
        rw [Nat.mod_eq_of_lt (by omega)] at h
        obtain ⟨hfree, number, hle, hfound⟩ := nextFree_some (by omega) h
        exact ⟨hfree, number, by omega, hfound⟩
    · rw [if_neg hused, Option.some.injEq] at h
      exact ⟨h ▸ hused, suffix, le_rfl, h.symm⟩

/-- A loop that is still running has met a used candidate in each round. -/
theorem nextFree_none {used : Finset String} {stem extension : String} : ∀ {fuel suffix : Nat},
    suffix + fuel ≤ 2 ^ 32 → nextFree used stem extension fuel suffix = none →
    ∀ k < fuel, candidate stem extension (suffix + k) ∈ used
  | 0, _, _, _, k, hk => absurd hk (Nat.not_lt_zero k)
  | fuel + 1, suffix, hbound, h, k, hk => by
    unfold nextFree at h
    by_cases hused : candidate stem extension suffix ∈ used
    · rw [if_pos hused] at h
      cases k with
      | zero => exact hused
      | succ k =>
        rw [Nat.mod_eq_of_lt (by omega)] at h
        have hlater := nextFree_none (by omega) h k (by omega)
        rwa [show suffix + 1 + k = suffix + (k + 1) by omega] at hlater
    · rw [if_neg hused] at h
      cases h

/-- More rounds do not change what the loop returns. -/
theorem nextFree_mono {used : Finset String} {stem extension found : String} : ∀ {fuel suffix : Nat} (more : Nat),
    nextFree used stem extension fuel suffix = some found → nextFree used stem extension (fuel + more) suffix = some found
  | 0, _, _, h => by cases h
  | fuel + 1, suffix, more, h => by
    rw [show fuel + 1 + more = fuel + more + 1 by omega]
    unfold nextFree at h ⊢
    by_cases hused : candidate stem extension suffix ∈ used
    · rw [if_pos hused] at h ⊢
      exact nextFree_mono more h
    · rwa [if_neg hused] at h ⊢

/-- **The loop ends**: as many rounds as there are used names are enough, since one of these is the name itself,
which is no candidate. -/
theorem nextFree_ends {used : Finset String} {name : String} (hused : name ∈ used) (hcard : used.card + 2 ≤ 2 ^ 32) :
    ∃ found, nextFree used (splitName name).1 (splitName name).2 used.card 2 = some found := by
  cases h : nextFree used (splitName name).1 (splitName name).2 used.card 2 with
  | some found => exact ⟨found, rfl⟩
  | none =>
    exfalso
    have hall := nextFree_none (by omega) h
    -- The candidates tried are distinct names of `used`, and none of them is `name`.
    have hsubset : (Finset.range used.card).image (fun k => candidate (splitName name).1 (splitName name).2 (2 + k)) ⊆
        used.erase name := by
      intro tried htried
      obtain ⟨k, hk, rfl⟩ := Finset.mem_image.mp htried
      exact Finset.mem_erase.mpr ⟨candidate_ne_name (splitName_splits name) _, hall k (Finset.mem_range.mp hk)⟩
    have hle := Finset.card_le_card hsubset
    rw [Finset.card_image_of_injective _ fun k k' hk => by
      have := candidate_injective _ _ hk
      omega] at hle
    rw [Finset.card_range, Finset.card_erase_of_mem hused] at hle
    have hpos := Finset.card_pos.mpr ⟨name, hused⟩
    omega

/-! ## One file -/

/-- What a file is saved as: its name, or its stem with a number and its extension. -/
structure Destination (earlier : List String) (name destination : String) : Prop where
  fresh : destination ∉ earlier
  kept : name ∉ earlier → destination = name
  renamed : destination ≠ name → ∃ stem extension number, 2 ≤ number ∧ Splits name stem extension ∧
    destination = candidate stem extension number

theorem destinationName_spec (earlier : List String) (name : String) (hbound : earlier.length + 2 ≤ 2 ^ 32) :
    ∃ destination, Destination earlier name destination ∧
      ∀ fuel, earlier.length ≤ fuel → destinationName fuel earlier.toFinset name = some destination := by
  by_cases hused : name ∈ earlier.toFinset
  · have hcard := earlier.toFinset_card_le
    obtain ⟨found, hfound⟩ := nextFree_ends hused (by omega)
    obtain ⟨hfree, number, htwo, hcandidate⟩ := nextFree_some (by omega) hfound
    refine ⟨found, ⟨fun h => hfree (List.mem_toFinset.mpr h), fun h => ?_, fun _ => ?_⟩, fun fuel hfuel => ?_⟩
    · exact absurd (List.mem_toFinset.mp hused) h
    · exact ⟨_, _, number, htwo, splitName_splits name, hcandidate⟩
    · have hmore := nextFree_mono (fuel - earlier.toFinset.card) hfound
      rw [show earlier.toFinset.card + (fuel - earlier.toFinset.card) = fuel by omega] at hmore
      rw [destinationName, if_pos hused, hmore]
  · refine ⟨name, ⟨fun h => hused (List.mem_toFinset.mpr h), fun _ => rfl, fun h => absurd rfl h⟩, fun fuel _ => ?_⟩
    rw [destinationName, if_neg hused]

/-! ## All files -/

theorem destinationNames_spec : ∀ (names : List String) {earlier : List String}, earlier.Nodup →
    earlier.length + names.length + 1 ≤ 2 ^ 32 → ∃ destinations,
      (∀ fuel, earlier.length + names.length ≤ fuel →
        destinationNames fuel earlier.toFinset names = some destinations) ∧
      destinations.length = names.length ∧ (earlier ++ destinations).Nodup ∧
      ∀ i (hname : i < names.length) (hdestination : i < destinations.length),
        Destination (earlier ++ destinations.take i) names[i] destinations[i]
  | [], earlier, hnodup, _ =>
    ⟨[], fun _ _ => rfl, rfl, by simpa using hnodup, fun i hname => absurd hname (Nat.not_lt_zero i)⟩
  | name :: names, earlier, hnodup, hbound => by
    rw [List.length_cons] at hbound
    obtain ⟨destination, hspec, hone⟩ := destinationName_spec earlier name (by omega)
    have hnodup' : (earlier ++ [destination]).Nodup := by
      rw [List.nodup_append]
      refine ⟨hnodup, List.nodup_singleton _, fun other hother same hsame => ?_⟩
      rintro rfl
      obtain rfl := List.mem_singleton.mp hsame
      exact hspec.fresh hother
    have hlength : (earlier ++ [destination]).length = earlier.length + 1 := by simp
    obtain ⟨others, hothers, hsame, hdistinct, heach⟩ := destinationNames_spec names hnodup' (by omega)
    have hused : (earlier ++ [destination]).toFinset = insert destination earlier.toFinset := by
      ext other
      simp [or_comm]
    refine ⟨destination :: others, fun fuel hfuel => ?_, by simp [hsame], by simpa using hdistinct, ?_⟩
    · rw [List.length_cons] at hfuel
      have hrest := hothers fuel (by omega)
      rw [hused] at hrest
      simp [destinationNames, hone fuel (by omega), hrest]
    · intro i hname hdestination
      cases i with
      | zero => simpa using hspec
      | succ i =>
        have hlater := heach i (by simpa using hname) (by simpa using hdestination)
        simpa using hlater

/-- **Every file gets its own name.** -/
theorem uniqueDestinationNames_spec (slice : Names) : ∃ destinations,
    (∀ fuel, slice.names.length ≤ fuel → uniqueDestinationNames fuel slice.names = some destinations) ∧
      destinations.length = slice.names.length ∧ destinations.Nodup ∧
      ∀ i (hname : i < slice.names.length) (hdestination : i < destinations.length),
        (slice.names[i] ∉ destinations.take i → destinations[i] = slice.names[i]) ∧
        (destinations[i] ≠ slice.names[i] → ∃ stem extension number, 2 ≤ number ∧
          Splits slice.names[i] stem extension ∧ destinations[i] = candidate stem extension number) := by
  have hlt := slice.length_lt
  obtain ⟨destinations, hdestinations, hlength, hnodup, heach⟩ :=
    destinationNames_spec slice.names List.nodup_nil (by simp; omega)
  refine ⟨destinations, fun fuel hfuel => hdestinations fuel (by simpa using hfuel), hlength, by simpa using hnodup, ?_⟩
  intro i hname hdestination
  have hspec := heach i hname hdestination
  rw [List.nil_append] at hspec
  exact ⟨hspec.kept, hspec.renamed⟩

example : uniqueDestinationNames 6 ["a.txt", "a.txt", "a (2).txt", ".env", ".env", "a."] =
    some ["a.txt", "a (2).txt", "a (2) (2).txt", ".env", ".env (2)", "a."] := by decide

end P2PTransmission.Rtc
