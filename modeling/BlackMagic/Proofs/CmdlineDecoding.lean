import BlackMagic.Cmdline
import Mathlib.Data.List.TakeWhile

/-! The loop of `vRun` decodes the command line as it should exactly if no NUL is decoded and the
line does not come within reach of the end of the buffer. -/

namespace BlackMagic.Proofs.CmdlineDecoding
open Lib Targets Commands Cmdline

/-- What the loop has written so far, with the terminator behind it. -/
structure Holds (line : Line) (written : Text) : Prop where
  pcmdline : line.pcmdline = written.length
  text : line.cmdline.take written.length = written
  writes : ∀ i ∈ line.writes, i ≤ line.pcmdline
  last : line.pcmdline ∈ line.writes

section Steps
variable {line : Line} {written : Text}

private theorem whole (holds : Holds line written) : line.cmdline.take (line.pcmdline + 1) = written ++ [0#8] := by
  have closed := line.terminated
  rw [holds.pcmdline] at closed ⊢
  rw [Buffer.take, List.range_succ, List.map_append, ← Buffer.take, holds.text, List.map_singleton, closed]

private theorem cString_closed (text more : Text) : cString (text ++ 0#8 :: more) = cString text := by
  rw [cString, cString, List.takeWhile_append]
  split
  · rename_i all
    rw [(List.takeWhile_prefix _).eq_of_length all]
    simp
  · rfl

private theorem strlen_eq (holds : Holds line written) : line.strlen = (cString written).length := by
  rw [Line.strlen, whole holds, cString_closed]

private theorem separator_holds (holds : Holds line written) : Holds line.separator (written ++ [chr ' ']) := by
  have position := holds.pcmdline
  refine ⟨?_, ?_, ?_, ?_⟩
  · simp [Line.separator, Line.terminate, position]
  · simp only [Line.separator, Line.terminate, Memory.store, List.length_append, List.length_singleton, position]
    rw [Buffer.take_set_of_le _ _ (Nat.le_refl _), Buffer.take_succ_set, holds.text]
  · intro i listed
    simp only [Line.separator, Line.terminate, Memory.store, List.mem_append, List.mem_singleton] at listed ⊢
    obtain (before | rfl) | rfl := listed
    · have bound := holds.writes i before
      omega
    · omega
    · omega
  · simp [Line.separator, Line.terminate, Memory.store]

private theorem pair_holds (holds : Holds line written) (digits behind : Byte × Byte) :
    Holds (line.pair digits behind)
      (written ++ escape ((Hex.unhexDigit digits.1 <<< 4) ||| Hex.unhexDigit digits.2)) := by
  have position := holds.pcmdline
  rw [Line.pair, escape]
  generalize (Hex.unhexDigit digits.1 <<< 4) ||| Hex.unhexDigit digits.2 = value
  generalize (Hex.unhexDigit behind.1 <<< 4) ||| Hex.unhexDigit behind.2 = other
  have first : ((line.store line.pcmdline value).store (line.pcmdline + 1) other).cmdline line.pcmdline = value := by
    simp only [Memory.store]
    rw [Buffer.set_other _ _ (by omega), Buffer.set_self]
  rw [first]
  split
  · refine ⟨?_, ?_, ?_, ?_⟩
    · simp [Line.terminate, position]
    · simp only [Line.terminate, Memory.store, List.length_append, List.length_cons, List.length_nil, Nat.zero_add, position,
        ← Nat.add_assoc]
      rw [Buffer.take_set_of_le _ _ (Nat.le_refl _), Buffer.set_comm _ _ _ (by omega), Buffer.take_succ_set,
        Buffer.take_succ_set, Buffer.take_set_of_le _ _ (by omega), Buffer.take_set_of_le _ _ (Nat.le_refl _), holds.text,
        List.append_assoc, List.singleton_append]
    · intro i listed
      simp only [Line.terminate, Memory.store, List.mem_append, List.mem_singleton] at listed ⊢
      obtain ((((before | rfl) | rfl) | rfl) | rfl) | rfl := listed
      · have bound := holds.writes i before
        omega
      all_goals omega
    · simp [Line.terminate, Memory.store]
  · refine ⟨?_, ?_, ?_, ?_⟩
    · simp [Line.terminate, position]
    · simp only [Line.terminate, Memory.store, List.length_append, List.length_singleton, position]
      rw [Buffer.take_set_of_le _ _ (Nat.le_refl _), Buffer.take_set_of_le _ _ (Nat.le_refl _), Buffer.take_succ_set,
        holds.text]
    · intro i listed
      simp only [Line.terminate, Memory.store, List.mem_append, List.mem_singleton] at listed ⊢
      obtain ((before | rfl) | rfl) | rfl := listed
      · have bound := holds.writes i before
        omega
      all_goals omega
    · simp [Line.terminate, Memory.store]

end Steps

section Runs

/-- The pieces that the loop takes behind what it has written: it stops by the string so far. -/
def kept : Text → List Text → List Text
  | _, [] => []
  | written, piece :: rest =>
    if (cString written).length + 3 ≥ sizeofCmdline then [] else piece :: kept (written ++ piece) rest

private theorem decode_cons (behind c : Byte) (rest : Text) (line : Line) :
    decode behind (c :: rest) line
      = if line.strlen + 3 ≥ sizeofCmdline then line
        else if c = chr ';' then decode behind rest line.separator
        else
          match rest with
          | [] => line
          | d :: rest =>
            if Server.isHexDigit c && Server.isHexDigit d then decode behind rest (line.pair (c, d) (peek behind rest))
            else line := by
  cases rest <;> rfl

theorem decode_holds (behind : Byte) (tok : Text) {line : Line} {written : Text} (holds : Holds line written) :
    Holds (decode behind tok line) (written ++ (kept written (pieces tok)).flatten) := by
  fun_induction pieces tok generalizing line written with
  | case1 => simpa [decode, kept] using holds
  | case2 rest ih =>
    rw [decode_cons, strlen_eq holds, kept]
    split
    · simpa using holds
    · rw [if_pos rfl, List.flatten_cons, ← List.append_assoc]
      exact ih (separator_holds holds)
  | case3 c other => simpa [decode, kept, other] using holds
  | case4 c other d rest digits ih =>
    rw [decode_cons, strlen_eq holds, kept]
    split
    · simpa using holds
    · rw [List.flatten_cons, ← List.append_assoc]
      dsimp only
      rw [if_pos digits]
      exact ih (pair_holds holds (c, d) (peek behind rest))
  | case5 c other d rest noDigits => simpa [decode, kept, other, noDigits] using holds

theorem vRun_holds (packet : Text) (behind : Byte) (cmdline : Buffer) :
    Holds (vRun packet behind cmdline) (kept [] (pieces (argument packet))).flatten := by
  have start : Holds (.terminate ⟨cmdline, []⟩ 0) [] :=
    ⟨rfl, rfl, fun i listed => Nat.le_of_eq (List.mem_singleton.mp listed), List.mem_singleton.mpr rfl⟩
  exact decode_holds behind (argument packet) start

private theorem decodeCmdline_cons (more : Nat) (c : Byte) (written rest : Text) :
    Server.decodeCmdline (more + 1) written (c :: rest)
      = if (cString written).length + 3 ≥ sizeofCmdline then written
        else if c = chr ';' then Server.decodeCmdline more (written ++ [chr ' ']) rest
        else
          match rest with
          | [] => written
          | d :: rest =>
            if Server.isHexDigit c && Server.isHexDigit d then
              Server.decodeCmdline more (written ++ escape ((Hex.unhexDigit c <<< 4) ||| Hex.unhexDigit d)) rest
            else written := by
  cases rest with
  | nil => rfl
  | cons d rest =>
    have escaped : ∀ value : Byte,
        written ++ (if [value] = [chr ' '] ∨ [value] = [chr '\\'] then [chr '\\'] else []) ++ [value]
          = written ++ escape value := by
      intro value
      simp only [escape, List.cons.injEq, and_true]
      split <;> simp
    dsimp only
    rw [← escaped]
    rfl

/-- The server hands the target the string in the buffer. -/
theorem runCmdline_eq (packet : Text) (behind : Byte) (cmdline : Buffer) :
    Server.runCmdline packet
      = cString ((vRun packet behind cmdline).cmdline.take ((vRun packet behind cmdline).pcmdline + 1)) := by
  have decoded : ∀ (tok written : Text) (more : Nat), tok.length ≤ more →
      Server.decodeCmdline more written tok = written ++ (kept written (pieces tok)).flatten := by
    intro tok
    fun_induction pieces tok with
    | case1 =>
      intro written more _
      cases more <;> simp [Server.decodeCmdline, kept]
    | case2 rest ih =>
      intro written more enough
      cases more with
      | zero => exact absurd enough (Nat.not_succ_le_zero _)
      | succ more =>
        rw [decodeCmdline_cons, kept]
        split
        · simp
        · rw [if_pos rfl, ih _ _ (Nat.le_of_succ_le_succ enough)]
          simp
    | case3 c other =>
      intro written more enough
      cases more <;> simp [Server.decodeCmdline, kept, other]
    | case4 c other d rest digits ih =>
      intro written more enough
      cases more with
      | zero => exact absurd enough (Nat.not_succ_le_zero _)
      | succ more =>
        rw [decodeCmdline_cons, kept]
        split
        · simp
        · have remaining : rest.length ≤ more := by
            rw [List.length_cons, List.length_cons] at enough
            omega
          dsimp only
          rw [if_pos digits, ih _ _ remaining, List.flatten_cons, List.append_assoc]
    | case5 c other d rest noDigits =>
      intro written more enough
      cases more <;> simp [Server.decodeCmdline, kept, other, noDigits]
  have holds := vRun_holds packet behind cmdline
  rw [whole holds, cString_closed]
  exact congrArg cString (decoded (argument packet) [] _ (Nat.le_refl _))

end Runs

section Limits
variable {written piece : Text} {rest : List Text}

private theorem cString_plain (plain : 0#8 ∉ written) : cString written = written := by
  rw [cString, List.takeWhile_eq_self_iff]
  intro byte listed
  rw [decide_eq_true_iff]
  exact fun null => plain (null ▸ listed)

private theorem mem_cString : 0#8 ∉ cString written := by
  intro listed
  have nonzero := List.mem_takeWhile_imp listed
  simp at nonzero

private theorem cString_append_null : cString (written ++ piece) = cString written ∨ 0#8 ∉ written := by
  by_cases null : 0#8 ∈ written
  · obtain ⟨front, back, rfl⟩ := List.append_of_mem null
    apply Or.inl
    rw [List.append_assoc, List.cons_append, cString_closed, cString_closed]
  · exact .inr null

/-- Without a NUL the loop looks at how much it has written. -/
theorem kept_plain (plain : 0#8 ∉ written) {chunks : List Text}
    (clean : 0#8 ∉ (filling (80 - written.length) chunks).flatten) :
    kept written chunks = filling (80 - written.length) chunks := by
  induction chunks generalizing written with
  | nil => rfl
  | cons chunk rest ih =>
    rw [kept, filling, cString_plain plain]
    by_cases room : 0 < 80 - written.length
    · rw [filling, if_pos room, List.flatten_cons, List.mem_append, not_or] at clean
      have remaining : 80 - written.length - chunk.length = 80 - (written ++ chunk).length := by
        rw [List.length_append]
        omega
      rw [remaining] at clean
      rw [if_neg (by rw [sizeofCmdline]; omega), if_pos room, remaining, ih _ clean.2]
      rw [List.mem_append, not_or]
      exact ⟨plain, clean.1⟩
    · rw [if_pos (by rw [sizeofCmdline]; omega), if_neg room]

/-- Behind a NUL the string no longer grows, and the loop takes everything. -/
theorem kept_null (null : 0#8 ∈ written) (room : (cString written).length < 80) (chunks : List Text) :
    kept written chunks = chunks := by
  induction chunks generalizing written with
  | nil => rfl
  | cons chunk rest ih =>
    have same : cString (written ++ chunk) = cString written := cString_append_null.resolve_right (fun plain => plain null)
    rw [kept, if_neg (by rw [sizeofCmdline]; omega), ih (List.mem_append_left _ null) (same ▸ room)]

theorem kept_spoiled (plain : 0#8 ∉ written) {chunks : List Text} (alone : ∀ chunk ∈ chunks, 0#8 ∈ chunk → chunk = [0#8])
    (spoiled : 0#8 ∈ (filling (80 - written.length) chunks).flatten) : kept written chunks = chunks := by
  induction chunks generalizing written with
  | nil => rfl
  | cons chunk rest ih =>
    rw [filling] at spoiled
    split at spoiled
    · rename_i room
      rw [kept, cString_plain plain, if_neg (by rw [sizeofCmdline]; omega)]
      by_cases here : 0#8 ∈ chunk
      · have lone := alone chunk List.mem_cons_self here
        rw [kept_null (List.mem_append_right _ here)]
        rw [lone, cString_closed, cString_plain plain]
        omega
      · have remaining : 80 - written.length - chunk.length = 80 - (written ++ chunk).length := by
          rw [List.length_append]
          omega
        rw [List.flatten_cons, List.mem_append, remaining] at spoiled
        rw [ih _ (fun other listed => alone other (List.mem_cons_of_mem _ listed)) (spoiled.resolve_left here)]
        rw [List.mem_append, not_or]
        exact ⟨plain, here⟩
    · cases spoiled

end Limits

section Pieces

private theorem escape_size (value : Byte) : (escape value).length = 1 ∨ (escape value).length = 2 := by
  rw [escape]
  split
  · exact .inr rfl
  · exact .inl rfl

private theorem escape_alone {value : Byte} (null : 0#8 ∈ escape value) : escape value = [0#8] := by
  rw [escape] at null ⊢
  split at null
  · rename_i special
    exfalso
    cases special with
    | inl space => simp [space, chr] at null
    | inr backslash => simp [backslash, chr] at null
  · rename_i plain
    rw [if_neg plain, List.mem_singleton.mp null]

theorem pieces_size (tok : Text) : ∀ piece ∈ pieces tok, piece.length = 1 ∨ piece.length = 2 := by
  fun_induction pieces tok with
  | case1 => simp
  | case2 rest ih => simpa using ih
  | case3 c other => simp
  | case4 c other d rest digits ih => simpa [escape_size] using ih
  | case5 c other d rest noDigits => simp

private theorem pieces_alone (tok : Text) : ∀ piece ∈ pieces tok, 0#8 ∈ piece → piece = [0#8] := by
  fun_induction pieces tok with
  | case1 => simp
  | case2 rest ih => simpa [chr] using ih
  | case3 c other => simp
  | case4 c other d rest digits ih =>
    intro piece listed null
    cases List.mem_cons.mp listed with
    | inl first => exact first ▸ escape_alone (first ▸ null)
    | inr later => exact ih piece later null
  | case5 c other d rest noDigits => simp

end Pieces

section Decoding
variable (packet : Text) (behind : Byte) (cmdline : Buffer)

private theorem small : ∀ piece ∈ pieces (argument packet), piece.length ≤ 1 + 1 := by
  intro piece listed
  have size := pieces_size _ piece listed
  omega

/-- The last store is the terminator, so nothing is written outside exactly if the line ends inside. -/
theorem inside_iff {line : Line} {written : Text} (holds : Holds line written) :
    (∀ i ∈ line.writes, i < sizeofCmdline) ↔ written.length < sizeofCmdline := by
  rw [← holds.pcmdline]
  constructor
  · intro inside
    exact inside _ holds.last
  · intro ends i listed
    exact Nat.lt_of_le_of_lt (holds.writes i listed) ends

/-- Nothing is written outside the buffer exactly if no NUL is decoded before the loop stops, or the
whole line fits. -/
theorem writes_inside_iff :
    (∀ i ∈ (vRun packet behind cmdline).writes, i < sizeofCmdline) ↔
      0#8 ∉ (filling 80 (pieces (argument packet))).flatten ∨
        (pieces (argument packet)).flatten.length < sizeofCmdline := by
  rw [inside_iff (vRun_holds packet behind cmdline)]
  by_cases spoiled : 0#8 ∈ (filling 80 (pieces (argument packet))).flatten
  · rw [kept_spoiled List.not_mem_nil (pieces_alone _) spoiled, or_iff_right (fun clean => clean spoiled)]
  · rw [kept_plain List.not_mem_nil spoiled]
    refine iff_of_true ?_ (.inl spoiled)
    have short := @filling_length_le _ 80 _ _ (small packet)
    exact Nat.lt_of_le_of_lt short (by decide)

private theorem text_of_holds {line : Line} {written : Text} (holds : Holds line written)
    (ends : written.length < sizeofCmdline) : cString (line.cmdline.take sizeofCmdline) = cString written := by
  obtain ⟨more, size⟩ := Nat.exists_eq_add_of_lt ends
  have split : line.cmdline.take sizeofCmdline
      = written ++ 0#8 :: (List.range more).map fun i => line.cmdline (written.length + 1 + i) := by
    have front := whole holds
    rw [holds.pcmdline] at front
    rw [size, show written.length + more + 1 = written.length + 1 + more by omega, Buffer.take, List.range_add, List.map_append,
      ← Buffer.take, front, List.append_assoc, List.map_map]
    rfl
  rw [split, cString_closed]

/-- The command line is decoded as it should exactly if no NUL is decoded into it and it stays
clear of the end of the buffer. -/
theorem vRun_decoded_iff :
    Decoded packet (vRun packet behind cmdline) ↔
      0#8 ∉ commandLine packet ∧ Snug 80 (pieces (argument packet)) := by
  have sizes := pieces_size (argument packet)
  have short := @filling_length_le _ 80 _ _ (small packet)
  have within : filling 80 (pieces (argument packet)) <+: fitting 82 (pieces (argument packet)) :=
    fitting_longest (filling_starts _ _) (by omega)
  rw [← filling_eq_fitting_iff sizes]
  constructor
  · intro decoded
    have clean : 0#8 ∉ commandLine packet := decoded.text ▸ mem_cString
    have plain : 0#8 ∉ (filling 80 (pieces (argument packet))).flatten := by
      obtain ⟨rest, whole⟩ := within
      intro null
      apply clean
      rw [commandLine, sizeofCmdline, ← whole, List.flatten_append]
      exact List.mem_append_left _ null
    refine ⟨clean, ?_⟩
    have taken : kept [] (pieces (argument packet)) = filling 80 (pieces (argument packet)) :=
      kept_plain List.not_mem_nil plain
    have holds := vRun_holds packet behind cmdline
    rw [taken] at holds
    have same := decoded.text
    rw [text_of_holds holds (Nat.lt_of_le_of_lt short (by decide)), cString_plain plain] at same
    obtain ⟨rest, whole⟩ := within
    rw [commandLine, sizeofCmdline, ← whole, List.flatten_append] at same
    cases rest with
    | nil => rw [← whole, List.append_nil]
    | cons piece rest =>
      have listed : piece ∈ pieces (argument packet) :=
        (fitting_starts 82 _).subset (whole ▸ List.mem_append_right _ List.mem_cons_self)
      have nonempty := sizes piece listed
      have lengths := congrArg List.length same
      rw [List.length_append, List.flatten_cons, List.length_append] at lengths
      omega
  · rintro ⟨clean, same⟩
    have plain : 0#8 ∉ (filling 80 (pieces (argument packet))).flatten := by
      rw [same]
      exact clean
    have taken : kept [] (pieces (argument packet)) = filling 80 (pieces (argument packet)) :=
      kept_plain List.not_mem_nil plain
    have holds := vRun_holds packet behind cmdline
    rw [taken] at holds
    have ends : (filling 80 (pieces (argument packet))).flatten.length < sizeofCmdline :=
      Nat.lt_of_le_of_lt short (by decide)
    refine ⟨(inside_iff holds).mpr ends, ⟨_, holds.pcmdline ▸ ends, Line.terminated _⟩, ?_⟩
    rw [text_of_holds holds ends, cString_plain plain]
    exact congrArg List.flatten same

/-- Eighty-three NULs, which the string in the buffer never shows. -/
def nullRun : Text := ascii "vRun;" ++ (List.replicate 83 (ascii "00")).flatten

private theorem pieces_nulls (count : Nat) : pieces (List.replicate count (ascii "00")).flatten = List.replicate count [0#8] := by
  induction count with
  | zero => rfl
  | succ count ih =>
    rw [List.replicate_succ, List.flatten_cons, List.replicate_succ, ← ih]
    rfl

theorem null_run_overruns : ¬ Decoded nullRun (vRun nullRun 0#8 fun _ => 0#8) := by
  intro decoded
  have inside := (writes_inside_iff nullRun 0#8 fun _ => 0#8).mp decoded.inside
  have argued : argument nullRun = (List.replicate 83 (ascii "00")).flatten := rfl
  rw [argued, pieces_nulls] at inside
  cases inside with
  | inl clean => exact clean (by decide)
  | inr short => exact absurd short (by decide)

end Decoding

end BlackMagic.Proofs.CmdlineDecoding
