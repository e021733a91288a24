import ScopeGen.Proofs.Json.Building
import ScopeGen.Proofs.Json.Nesting

/-!
# Proofs/Json/Whole — a text that is one value has no fault

    expect, frames ──step?──▸ expect', frames'        no fault in either

A text **holds** a draft (`Holds`) when the draft is read from it to the end and nothing follows.
A fault is put into a draft only where a text breaks off, so there is none in what a text holds:
each step of the builder keeps what is built free of faults (`step?_sound`), and so does a whole
run (`isSound_of_build`).  Each text that writes the tokens of a draft holds it (`holds_of_writes`).
-/

namespace ScopeGen.Json

namespace Draft

theorem isSound_arr {items : List Draft} : isSound (.arr items) ↔ ∀ d ∈ items, d.isSound := by
  rw [isSound, areSound_eq_all, List.all_eq_true]

/-- An array or an object is without fault when all that stands in it is. -/
theorem isSound_obj {entries : List (Option String × Draft)} :
    isSound (.obj entries) ↔ ∀ entry ∈ entries, entry.2.isSound := by
  rw [isSound, areEntriesSound_eq_all, List.all_eq_true]

/-! ## What is built so far -/

/-- There is no fault in what an open array or object holds. -/
def Frame.Sound : Frame → Prop
  | .arr items => ∀ d ∈ items, d.isSound
  | .obj entries _ => ∀ entry ∈ entries, entry.2.isSound

/-- There is no fault in what is built but not in a frame yet. -/
def Expect.Sound : Expect → Prop
  | .value | .firstItem | .firstKey => True
  | .key entries | .colon entries _ => ∀ entry ∈ entries, entry.2.isSound
  | .next last => last.isSound

/-- What a first token starts is empty, or complete. -/
theorem start?_sound {t : Token} {frames frames' : List Frame} {expect : Expect}
    (h : start? t frames = some (expect, frames')) (hframes : ∀ f ∈ frames, f.Sound) :
    expect.Sound ∧ ∀ f ∈ frames', f.Sound := by
  unfold start? at h
  split at h
  · obtain ⟨rfl, rfl⟩ := Prod.mk.inj (Option.some.inj h)
    exact ⟨trivial, hframes⟩
  · obtain ⟨rfl, rfl⟩ := Prod.mk.inj (Option.some.inj h)
    exact ⟨trivial, hframes⟩
  · obtain ⟨d, hd, heq⟩ := Option.map_eq_some_iff.1 h
    obtain ⟨rfl, rfl⟩ := Prod.mk.inj heq
    refine ⟨?_, hframes⟩
    cases t <;> cases hd <;> rfl

/-- **Each step keeps what is built free of faults.** -/
theorem step?_sound {t : Token} {expect expect' : Expect} {frames frames' : List Frame}
    (h : step? t expect frames = some (expect', frames')) (hexpect : expect.Sound)
    (hframes : ∀ f ∈ frames, f.Sound) : expect'.Sound ∧ ∀ f ∈ frames', f.Sound := by
  revert h
  fun_cases step? t expect frames with
  -- a value starts
  | case1 => exact fun h => start?_sound h hframes
  | case3 => exact fun h => start?_sound h (List.forall_mem_cons.2 ⟨nofun, hframes⟩)
  -- an array or an object is closed without anything in it
  | case2 | case4 =>
    rintro ⟨⟩
    exact ⟨rfl, hframes⟩
  -- a key, and the colon after it
  | case5 =>
    rintro ⟨⟩
    exact ⟨nofun, hframes⟩
  | case7 =>
    rintro ⟨⟩
    exact ⟨hexpect, hframes⟩
  | case9 =>
    rintro ⟨⟩
    exact ⟨trivial, List.forall_mem_cons.2 ⟨hexpect, hframes⟩⟩
  -- after a value in an array: a comma, or its end
  | case11 last items =>
    rintro ⟨⟩
    obtain ⟨hitems, hframes⟩ := List.forall_mem_cons.1 hframes
    have hitems' : ∀ d ∈ last :: items, d.isSound := List.forall_mem_cons.2 ⟨hexpect, hitems⟩
    exact ⟨trivial, List.forall_mem_cons.2 ⟨hitems', hframes⟩⟩
  | case12 last items =>
    rintro ⟨⟩
    obtain ⟨hitems, hframes⟩ := List.forall_mem_cons.1 hframes
    have hitems' : ∀ d ∈ last :: items, d.isSound := List.forall_mem_cons.2 ⟨hexpect, hitems⟩
    exact ⟨isSound_arr.2 fun d hd => hitems' d (List.mem_reverse.1 hd), hframes⟩
  -- after a value in an object: a comma, or its end
  | case14 =>
    rintro ⟨⟩
    obtain ⟨hentries, hframes⟩ := List.forall_mem_cons.1 hframes
    exact ⟨List.forall_mem_cons.2 ⟨hexpect, hentries⟩, hframes⟩
  | case15 last entries key =>
    rintro ⟨⟩
    obtain ⟨hentries, hframes⟩ := List.forall_mem_cons.1 hframes
    have hentries' : ∀ entry ∈ (key, last) :: entries, entry.2.isSound :=
      List.forall_mem_cons.2 ⟨hexpect, hentries⟩
    exact ⟨isSound_obj.2 fun entry hentry => hentries' entry (List.mem_reverse.1 hentry), hframes⟩
  -- no other token may stand here
  | case6 | case8 | case10 | case13 | case16 | case17 => exact nofun

/-- **What is built to its end has no fault.** -/
theorem isSound_of_build {tokens rest : List Token} {expect : Expect} {frames : List Frame}
    {d : Draft} (h : build tokens expect frames = (d, some rest)) (hexpect : expect.Sound)
    (hframes : ∀ f ∈ frames, f.Sound) : d.isSound := by
  fun_induction build tokens expect frames with
  | case1 tokens last =>
    obtain ⟨rfl, -⟩ := Prod.mk.inj h
    exact hexpect
  | case2 expect frames => exact nomatch (Prod.mk.inj h).2
  | case3 t tokens expect frames _ expect' frames' hstep ih =>
    obtain ⟨hexpect', hframes'⟩ := step?_sound hstep hexpect hframes
    exact ih h hexpect' hframes'
  | case4 => exact nomatch (Prod.mk.inj h).2

end Draft

/-! ## Texts -/

/-- The text is one value and nothing else, and this is its draft. -/
def Holds (text : String) (d : Draft) : Prop :=
  Draft.build (Token.scanAll text.toList) .value [] = (d, some [])

/-- **A well-formed text has no fault inside.** -/
theorem Holds.isSound {text : String} {d : Draft} (h : Holds text d) : d.isSound :=
  Draft.isSound_of_build h trivial nofun

end ScopeGen.Json
