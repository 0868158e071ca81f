import DataProduct.Proofs.Json.Sound

/-!
# What typed reading gives

The decoders are sound in the sense of `Sound`: whatever the text, a decoder that succeeds leaves
the depth as it found it, and its answer is of a known shape at that depth.

* an optional value read as `some v` is never `null` (`option_value_ne_null`): a `null` there is
  read as `none`;
* a list or a map is read one level deeper (`list_sound`, `dict_sound`);
* passing over an unknown member keeps the depth (`skipValue_sound`), and a key met twice fails
  (`duplicate_fails`);
* a record holds every invariant that its start holds and that setting each of its fields keeps
  (`record_sound`), whether it is read from an object or from an array;
* a whole text holds what its decoder promises at the starting depth (`readText_sound`).
-/

namespace DataProduct.Json

open Reader Decoder

variable {α β γ : Type}

/-! ## Answers -/

/-- Every answer `m` gives satisfies `Q`. -/
def Returns (m : Reader α) (Q : α → Prop) : Prop := ∀ c a c', m.run c = .ok (a, c') → Q a

theorem Returns.pure {a : α} {Q : α → Prop} (h : Q a) : Returns (Pure.pure a) Q := by
  intro c a' c' hr
  cases hr
  exact h

theorem Returns.bind {m : Reader β} {f : β → Reader α} {Q : α → Prop} (h : ∀ b, Returns (f b) Q) :
    Returns (m >>= f) Q := by
  intro c a c' hr
  obtain ⟨b, c₁, -, h₂⟩ := Reader.run_bind_eq_ok hr
  exact h b c₁ a c' h₂

theorem Sound.and_returns {m : Reader α} {P : Nat → α → Prop} {Q : α → Prop} (hs : Sound m P)
    (hr : Returns m Q) : Sound m fun D a => P D a ∧ Q a :=
  fun c a c' hD h => (hs c a c' hD h).imp_right fun hp => ⟨hp, hr c a c' h⟩

/-! ## Scalars and options -/

/-- Blanks passed over leave none to pass over. -/
theorem skipBlank_skipBlank (cs : List Char) (p : Position) :
    skipBlank (skipBlank cs p).1 (skipBlank cs p).2 = skipBlank cs p := by
  induction cs generalizing p with
  | nil => rfl
  | cons c cs ih =>
    by_cases hc : isBlank c = true
    · rw [skipBlank, if_pos hc]
      exact ih _
    · simp [skipBlank, hc]

/-- `readValue` answers `null` only at an `n`. -/
theorem readValue_null_head {F : Nat} {c c' : Cursor} (h : (readValue F).run c = .ok (.null, c')) :
    (skipBlank c.rest c.pos).1.head? = some 'n' := by
  cases F with
  | zero => exact absurd h (fail_here_fails _ _ _ _)
  | succ F =>
  rw [readValue] at h
  obtain ⟨x, c₁, h₁, h⟩ := Reader.run_bind_eq_ok h
  cases h₁
  -- every other branch answers something else, or fails
  have ne : ∀ {m : Reader Value} {c₀ : Cursor}, m.run c₀ = .ok (.null, c') →
      Returns m (· ≠ .null) → False :=
    fun hr hm => hm _ _ _ hr rfl
  split at h
  · exact absurd h (fail_peekPos_fails _ _ _ _)
  · assumption
  · exact (ne h (Returns.bind fun _ => Returns.pure (by simp))).elim
  · exact (ne h (Returns.bind fun _ => Returns.pure (by simp))).elim
  · exact (ne h (Returns.bind fun _ => Returns.bind fun _ => Returns.pure (by simp))).elim
  · exact (ne h (Returns.bind fun _ => Returns.bind fun _ => Returns.bind fun _ =>
      Returns.bind fun _ => Returns.pure (by simp))).elim
  · exact (ne h (Returns.bind fun _ => Returns.bind fun _ => Returns.bind fun _ =>
      Returns.bind fun _ => Returns.pure (by simp))).elim
  · split at h
    · exact (ne h (Returns.bind fun _ => Returns.pure (by simp))).elim
    · exact absurd h (fail_peekPos_fails _ _ _ _)

theorem invalidType_fails (expected : String) : Fails (invalidType expected : Reader α) := by
  unfold invalidType
  refine Fails.bind_right fun c => ?_
  dsimp only
  -- every branch names what it found and then fails
  split
  all_goals try split
  all_goals
    repeat refine Fails.bind_right fun _ => ?_
    exact fail_fails _ _

theorem string_sound (F : Nat) : Sound (string F) fun _ _ => True := by
  dsimp only [Decoder.string]
  refine Sound.keep_bind peekBlank_sound fun x => ?_
  split
  · exact (fail_peekPos_fails _).sound _
  · exact Sound.keep_bind bump_sound fun _ => lex_sound _ _ fun _ _ _ _ _ _ => trivial
  · exact (invalidType_fails _).sound _

theorem option_sound {d : Decoder α} {G : Nat → α → Prop} {F : Nat} (hd : Sound (d F) G) :
    Sound (option d F) fun D o => ∀ a ∈ o, G D a := by
  dsimp only [Decoder.option]
  refine Sound.keep_bind peekBlank_sound fun x => ?_
  split
  · exact Sound.keep_bind (literal_sound _) fun _ => Sound.pure fun _ _ a h => nomatch h
  · exact hd.bind fun a => Sound.pure fun _ _ ha b hb => Option.some_inj.1 hb ▸ ha

/-- A value read with its objects as maps is what reading gives: sorting a value read changes
nothing. -/
theorem value_sound (F : Nat) : Sound (value F) fun D v => v.val.Good D :=
  (readValue_sound F).bind fun v => Sound.pure fun _ _ hv => by
    rw [SortedValue.val_ofValue hv.1]
    exact hv

/-- Sorting keeps the kind of a value: only `null` sorts to `null`. -/
theorem Value.eq_null_of_sorted {v : Value} (h : v.sorted = .null) : v = .null := by
  cases v with
  | array vs => simp [Value.sorted] at h
  | object ms => simp [Value.sorted] at h
  | _ => exact h

/-- A value read where an optional value stands is no `null`: the peek that chose to read a
value saw no `n`, and the value reader starts where the peek looked. -/
theorem option_value_ne_null (F : Nat) :
    Returns (option value F) fun o => ∀ v ∈ o, v.val ≠ .null := by
  intro c o c' h
  dsimp only [Decoder.option, Decoder.value] at h
  obtain ⟨x, c₁, h₁, h⟩ := Reader.run_bind_eq_ok h
  cases h₁
  split at h
  · obtain ⟨_, _, -, h⟩ := Reader.run_bind_eq_ok h
    cases h
    exact fun v hv => nomatch hv
  · rename_i hx
    obtain ⟨w, c₂, h₂, h⟩ := Reader.run_bind_eq_ok h
    cases h
    obtain ⟨v, c₃, h₃, h₂⟩ := Reader.run_bind_eq_ok h₂
    cases h₂
    rintro w hw hnull
    cases hw
    obtain rfl := Value.eq_null_of_sorted hnull
    have := readValue_null_head h₃
    rw [skipBlank_skipBlank] at this
    exact hx this

/-! ## Lists and maps -/

theorem list_sound {d : Decoder α} {G : Nat → α → Prop} (hd : ∀ F, Sound (d F) G) (F : Nat) :
    Sound (list d F) fun D xs => 1 < D ∧ ∀ x ∈ xs, G (D - 1) x := by
  dsimp only [Decoder.list]
  refine Sound.keep_bind peekBlank_sound fun x => ?_
  split
  · exact (fail_peekPos_fails _).sound _
  · have hitems := (items_sound F (fun F' _ => hd F') true []).mono fun D xs h => h nofun
    refine (Sound.enclose (fun xs => xs) hitems).mono ?_
    rintro D _ ⟨hD, xs, rfl, hxs⟩
    exact ⟨hD, hxs⟩
  · exact (invalidType_fails _).sound _

theorem dict_sound {d : Decoder α} {G : Nat → α → Prop} (hd : ∀ F, Sound (d F) G) (F : Nat) :
    Sound (dict d F) fun D es => 1 < D ∧ ∀ e ∈ es.entries, G (D - 1) e.2 := by
  dsimp only [Decoder.dict]
  refine Sound.keep_bind peekBlank_sound fun x => ?_
  split
  · exact (fail_peekPos_fails _).sound _
  · have hentries := (entries_sound F (fun F' _ => hd F') true .empty).mono
      fun D es h => h nofun
    refine (Sound.enclose (fun es => es) hentries).mono ?_
    rintro D _ ⟨hD, es, rfl, hes⟩
    exact ⟨hD, hes⟩
  · exact (invalidType_fails _).sound _

/-! ## Passing over values -/

theorem get_sound : Sound (get : Reader Cursor) fun _ _ => True := by
  intro c a c' _ hr
  cases hr
  exact ⟨rfl, trivial⟩

/-- Passing over values keeps the depth: the skipping readers track the containers they are in
with a list of their own, and never enter one. -/
theorem skip_sound (F : Nat) :
    (∀ frames afterValue, Sound (skipRest F frames afterValue) fun _ _ => True) ∧
      (∀ frames, Sound (skipMember F frames) fun _ _ => True) ∧
      ∀ frames, Sound (skipAt F frames) fun _ _ => True := by
  induction F with
  | zero =>
    refine ⟨fun _ _ => ?_, fun _ => ?_, fun _ => ?_⟩ <;>
      exact (fail_here_fails _).sound _
  | succ F ih =>
    obtain ⟨hrest, hmember, hat⟩ := ih
    refine ⟨fun frames afterValue => ?_, fun frames => ?_, fun frames => ?_⟩
    · cases frames with
      | nil => exact Sound.pure fun _ _ => trivial
      | cons frame outer =>
        rw [skipRest]
        refine Sound.keep_bind peekBlank_sound fun next => ?_
        dsimp only
        split
        · exact Sound.keep_bind bump_sound fun _ => hmember _
        split
        · exact Sound.keep_bind bump_sound fun _ => hrest _ _
        split
        · exact (fail_peekPos_fails _).sound _
        split
        · exact (fail_peekPos_fails _).sound _
        · exact hmember _
    · rw [skipMember]
      dsimp only
      -- past a key and its colon, or at an item, what follows is a value
      have failed : ∀ {f : Fault} {k : Reader Unit},
          Sound (do let p ← peekPos; fail f p; k) fun _ _ => True :=
        (fail_then_fails _).sound _
      split
      · refine Sound.keep_bind peekBlank_sound fun key => ?_
        split
        · refine Sound.keep_bind bump_sound fun _ =>
            Sound.keep_bind (lex_sound _ (fun _ => True) fun _ _ _ _ _ _ => trivial) fun _ =>
              Sound.keep_bind peekBlank_sound fun colon => ?_
          split
          · exact Sound.keep_bind bump_sound fun _ => hat _
          · exact failed
          · exact failed
        · exact failed
        · exact failed
      · exact hat _
    · rw [skipAt]
      refine Sound.keep_bind peekBlank_sound fun next => ?_
      split
      · exact (fail_peekPos_fails _).sound _
      · exact Sound.keep_bind (literal_sound _) fun _ => hrest _ _
      · exact Sound.keep_bind (literal_sound _) fun _ => hrest _ _
      · exact Sound.keep_bind (literal_sound _) fun _ => hrest _ _
      · exact Sound.keep_bind bump_sound fun _ =>
          Sound.keep_bind (lex_sound _ (fun _ => True) fun _ _ _ _ _ _ => trivial) fun _ =>
            hrest _ _
      · exact Sound.keep_bind bump_sound fun _ => hrest _ _
      · exact Sound.keep_bind bump_sound fun _ => hrest _ _
      · split
        · exact Sound.keep_bind (lex_sound _ (fun _ => True) fun _ _ _ _ _ _ => trivial) fun _ =>
            hrest _ _
        · exact (fail_peekPos_fails _).sound _

theorem skipValue_sound : Sound skipValue fun _ _ => True :=
  Sound.keep_bind get_sound fun _ => (skip_sound _).2.2 _

theorem endPositional_sound : Sound endPositional fun _ _ => True := by
  unfold endPositional
  refine Sound.keep_bind peekBlank_sound fun x => ?_
  split
  · exact bump_sound
  · refine Sound.keep_bind bump_sound fun _ => Sound.keep_bind peekBlank_sound fun y => ?_
    split <;> exact (fail_peekPos_fails _).sound _
  · exact (fail_peekPos_fails _).sound _
  · exact (fail_peekPos_fails _).sound _

theorem duplicate_fails (key : String) : Fails (duplicate key : Reader α) := by
  unfold duplicate
  refine Fails.bind_right fun x => ?_
  dsimp only
  split
  · exact Fails.bind_right fun _ => fail_here_fails _
  · exact fail_here_fails _


/-! ## Records -/

/-- A change to a record keeps `Inv` at depth `E`. -/
def Keeps (Inv : Nat → β → Prop) (E : Nat) (u : β → β) : Prop := ∀ r, Inv E r → Inv E (u r)

/-- A field whose value, read soundly, keeps the invariant when it is set. -/
theorem field_keeps {key : String} {d : Decoder γ} {set : γ → β → β} {G : Nat → γ → Prop}
    {Inv : Nat → β → Prop} (hd : ∀ F, Sound (d F) G)
    (hset : ∀ E x r, G E x → Inv E r → Inv E (set x r)) (F : Nat) :
    Sound ((field key d set).read F) (Keeps Inv) :=
  (hd F).bind fun x => Sound.pure fun E _ hx r hr => hset E x r hx hr

section Fields

variable {Inv : Nat → β → Prop} {fields : List (Decoder.Field β)}

theorem positional_sound {F : Nat} : ∀ (fields : List (Decoder.Field β)),
    (∀ f ∈ fields, Sound (f.read F) (Keeps Inv)) → ∀ (first : Bool) (r : β),
    Sound (positional F fields first r) fun E r' => Inv E r → Inv E r'
  | [], _, _, _ => Sound.pure fun _ _ h => h
  | f :: fs, hf, first, r => by
    rw [positional]
    refine Sound.keep_bind (nextItem_sound first) fun b => ?_
    split
    · refine (hf f List.mem_cons_self).bind fun u => ?_
      have hfs : ∀ g ∈ fs, Sound (g.read F) (Keeps Inv) := fun g hg =>
        hf g (List.mem_cons_of_mem _ hg)
      refine (positional_sound fs hfs false (u r)).mono ?_
      intro E r' h hu hr
      exact h (hu r hr)
    · exact Sound.pure fun _ _ h => h

theorem keyed_sound (hf : ∀ f ∈ fields, ∀ F, Sound (f.read F) (Keeps Inv)) :
    ∀ (F : Nat) (seen : List String) (first : Bool) (r : β),
    Sound (keyed fields F seen first r) fun E r' => Inv E r → Inv E r'
  | 0, _, _, _ => (fail_here_fails _).sound _
  | F + 1, seen, first, r => by
    rw [keyed]
    refine Sound.keep_bind (nextKey_sound first) fun key => ?_
    split
    · exact Sound.keep_bind bump_sound fun _ => Sound.pure fun _ _ h => h
    · split
      · rename_i f hfind
        split
        · exact (duplicate_fails _).sound _
        · refine Sound.keep_bind colon_sound fun _ =>
            (hf f (List.mem_of_find?_eq_some hfind) F).bind fun u => ?_
          refine (keyed_sound hf F _ false (u r)).mono ?_
          intro E r' h hu hr
          exact h (hu r hr)
      · refine Sound.keep_bind colon_sound fun _ => Sound.keep_bind skipValue_sound fun _ => ?_
        exact keyed_sound hf F seen false r

end Fields


/-- A container is opened, read and closed after a check of its end. -/
theorem Sound.enclose_then {inner : Reader α} {post : Reader Unit} {Q : Nat → α → Prop}
    (h : Sound inner Q) (hpost : Sound post fun _ _ => True) :
    Sound (do enter; bump; let x ← inner; post; leave; return x)
      fun D y => 1 < D ∧ Q (D - 1) y := by
  intro c y c' hD hr
  obtain ⟨hd, c₂, hd₂, hr⟩ := enter_bump_run hr
  obtain ⟨x, c₃, h₃, hr⟩ := Reader.run_bind_eq_ok hr
  obtain ⟨hd₃, hQ⟩ := h c₂ x c₃ (by omega) h₃
  obtain ⟨u, c₄, h₄, hr⟩ := Reader.run_bind_eq_ok hr
  have hd₄ := (hpost c₃ u c₄ (by omega) h₄).1
  obtain ⟨rfl, hd'⟩ := leave_pure_run hr
  rw [hd₂] at hQ
  exact ⟨by omega, hd, hQ⟩

/-- A record read soundly: every field keeps the invariant, which the start holds, so the record
read from an array or an object holds it one level down. -/
theorem record_sound {name : String} {init : β} {fields : List (Decoder.Field β)}
    (Inv : Nat → β → Prop) (hinit : ∀ E, 1 ≤ E → Inv E init)
    (hfields : List.Forall (fun f => ∀ F, Sound (Decoder.Field.read f F) (Keeps Inv)) fields)
    (F : Nat) : Sound (record name init fields F) fun D r => 1 < D ∧ Inv (D - 1) r := by
  have hf := List.forall_iff_forall_mem.1 hfields
  dsimp only [Decoder.record]
  refine Sound.keep_bind peekBlank_sound fun x => ?_
  split
  · exact (fail_peekPos_fails _).sound _
  · refine (Sound.enclose_then (positional_sound fields (fun f hf' => hf f hf' F) true init)
      endPositional_sound).mono ?_
    rintro D r ⟨hD, h⟩
    exact ⟨hD, h (hinit _ (by omega))⟩
  · refine (Sound.enclose (fun r => r) (keyed_sound hf F [] true init)).mono ?_
    rintro D _ ⟨hD, r, rfl, h⟩
    exact ⟨hD, h (hinit _ (by omega))⟩
  · exact (invalidType_fails _).sound _

/-! ## Whole texts -/

/-- What a whole text read by a sound decoder holds satisfies what the decoder promises at the
starting depth. -/
theorem readText_sound {d : Decoder α} {G : Nat → α → Prop} (hd : ∀ F, Sound (d F) G)
    {s : String} {a : α} (h : readText d s = .ok a) : G 128 a := by
  unfold readText at h
  rw [StateT.run'_eq] at h
  cases hr : (d (budget s) >>= fun x => do finish; Pure.pure x).run (Cursor.ofString s) with
  | error e => rw [hr] at h; cases h
  | ok p =>
    rw [hr] at h
    cases h
    obtain ⟨x, c₁, h₁, h₂⟩ := Reader.run_bind_eq_ok hr
    have hx : (finish >>= fun _ => Pure.pure x : Reader α).run c₁ = .ok (p.1, p.2) := h₂
    obtain ⟨_, _, -, hx⟩ := Reader.run_bind_eq_ok hx
    cases hx
    exact (hd _ _ _ c₁ (Nat.le_of_ble_eq_true rfl) h₁).2

end DataProduct.Json
