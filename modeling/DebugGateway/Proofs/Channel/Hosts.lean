import DebugGateway.Channel
import DebugGateway.Proofs.Basics
import DebugGateway.Proofs.Channel.Paths
import DebugGateway.Proofs.Json.Numerals

namespace DebugGateway

/-! ## Addresses -/

theorem Ipv4.digits_of_octet {digits : List Char} (octet : (octet? digits).isSome) :
    ∀ c ∈ digits, c.isDigit = true := by
  rw [octet?] at octet
  split at octet
  · cases octet
  · rename_i all
    simp only [Bool.or_eq_true, Bool.not_eq_true', not_or, Bool.not_eq_false] at all
    exact List.all_eq_true.mp all.2

theorem Ipv4.mem_parsed {text : List Char} (parsed : (parse? text).isSome) :
    ∀ c ∈ text, c = '.' ∨ c.isDigit = true := by
  intro c member
  rcases mem_pieces '.' member with point | ⟨piece, cut, inside⟩
  · exact .inl point
  · rw [parse?] at parsed
    split at parsed
    · obtain ⟨octets, mapped⟩ := Option.isSome_iff_exists.mp parsed
      exact .inr (digits_of_octet (mapM_isSome mapped piece cut) c inside)
    · cases parsed

namespace Ipv6

def InPiece (c : Char) : Prop := c = '.' ∨ (hexDigit? c).isSome

theorem inPiece_of_isDigit {c : Char} (digit : c.isDigit = true) : InPiece c := by
  right
  simp [hexDigit?, digit]

theorem mem_piece {digits : List Char} (piece : (piece? digits).isSome) :
    ∀ c ∈ digits, InPiece c := by
  intro c member
  rw [piece?] at piece
  split at piece
  · cases piece
  · rw [Option.isSome_map] at piece
    obtain ⟨values, mapped⟩ := Option.isSome_iff_exists.mp piece
    exact .inr (mapM_isSome mapped c member)

theorem mem_of_pieces {parts : List (List Char)} {address : List Nat}
    (read : pieces? parts = some address) : ∀ part ∈ parts, ∀ c ∈ part, InPiece c := by
  fun_induction pieces? parts generalizing address with
  | case1 => simp
  | case2 last a b c d dotted =>
    intro part member e inside
    rw [List.mem_singleton.mp member] at inside
    rcases Ipv4.mem_parsed (by rw [dotted]; rfl) e inside with point | digit
    · exact .inl point
    · exact inPiece_of_isDigit digit
  | case3 last plain =>
    intro part member
    rw [List.mem_singleton.mp member]
    apply mem_piece
    obtain ⟨n, one, -⟩ := Option.map_eq_some_iff.mp read
    rw [one]
    rfl
  | case4 first rest more ih =>
    obtain ⟨n, here, read⟩ := Option.bind_eq_some_iff.mp read
    obtain ⟨others, later, -⟩ := Option.bind_eq_some_iff.mp read
    intro part member
    rcases List.mem_cons.mp member with rfl | member
    · exact mem_piece (by rw [here]; rfl)
    · exact ih later part member

theorem mem_of_split {text : List Char} {address : List Nat}
    (read : pieces? (splitAtChar ':' text) = some address) :
    ∀ c ∈ text, c = ':' ∨ InPiece c := by
  intro c member
  refine (mem_pieces ':' member).imp_right ?_
  rintro ⟨piece, cut, inside⟩
  exact mem_of_pieces read piece cut c inside

theorem mem_of_side {text : List Char} {address : List Nat} (read : side? text = some address) :
    ∀ c ∈ text, c = ':' ∨ InPiece c := by
  rw [side?] at read
  split at read
  · rename_i empty
    rw [List.isEmpty_iff.mp empty]
    simp
  · exact mem_of_split read

theorem append_of_cutAtGap {text before after : List Char}
    (cut : cutAtGap text = some (before, after)) : text = before ++ ':' :: ':' :: after := by
  fun_induction cutAtGap text generalizing before with
  | case1 => cases cut
  | case2 rest =>
    cases cut
    rfl
  | case3 c rest single ih =>
    obtain ⟨⟨front, back⟩, later, same⟩ := Option.map_eq_some_iff.mp cut
    cases same
    rw [ih later]
    rfl

theorem mem_of_parse {text : List Char} {address : List Nat} (read : parse? text = some address) :
    ∀ c ∈ text, c = ':' ∨ InPiece c := by
  rw [parse?] at read
  split at read
  · split at read
    · rename_i pieces
      exact mem_of_split pieces
    · cases read
  · rename_i before after cut
    split at read
    · cases read
    · split at read
      · rename_i left right
        intro c member
        rw [append_of_cutAtGap cut] at member
        rcases List.mem_append.mp member with front | member
        · exact mem_of_side left c front
        · rcases List.mem_cons.mp member with colon | member
          · exact .inl colon
          · rcases List.mem_cons.mp member with colon | back
            · exact .inl colon
            · exact mem_of_side right c back
      · cases read

theorem length_of_one_piece {part : List Char} {address : List Nat}
    (read : pieces? [part] = some address) : address.length ≤ 2 := by
  rw [pieces?] at read
  split at read
  · cases read
    exact Nat.le_refl 2
  · obtain ⟨n, -, rfl⟩ := Option.map_eq_some_iff.mp read
    exact Nat.le_succ 1

theorem parse_without_colon {text : List Char} (none : ':' ∉ text) : parse? text = Option.none := by
  rw [parse?]
  cases cut : cutAtGap text with
  | some halves =>
    rw [append_of_cutAtGap cut] at none
    simp at none
  | none =>
    rw [splitAtChar_free none]
    cases read : pieces? [text] with
    | none => rfl
    | some address =>
      have short := length_of_one_piece read
      exact if_neg (by omega)

end Ipv6

def Url.Bare (c : Char) : Prop := c.isAlphanum = true ∨ c = '.'

theorem Url.Bare.of_isUpper {c : Char} (upper : c.isUpper = true) : Bare c := by
  left
  show (c.isUpper || c.isLower || c.isDigit) = true
  rw [upper, Bool.true_or, Bool.true_or]

theorem Url.Bare.of_isDigit {c : Char} (digit : c.isDigit = true) : Bare c := by
  left
  show (c.isUpper || c.isLower || c.isDigit) = true
  rw [digit, Bool.or_true]

/-- A host that is the one that asks is a name or four numbers, or else an address with colons. -/
theorem loopback_cases {host : String} (loopback : isLoopbackHost host = true) :
    (∀ c ∈ host.toList, Url.Bare c) ∨
      Ipv6.parse? host.toList = some Ipv6.loopback := by
  simp only [isLoopbackHost, Bool.or_eq_true, beq_iff_eq, Option.any_eq_true] at loopback
  rcases loopback with (name | ⟨address, parsed, -⟩) | address
  · left
    intro c member
    have lowered : c.toLower ∈ "localhost".toList := by
      rw [← name, String.toList_ofList]
      exact List.mem_map_of_mem member
    by_cases upper : c.isUpper = true
    · exact .of_isUpper upper
    · have same : c.toLower = c := dif_neg fun range => upper (decide_eq_true range)
      have letters : "localhost".toList.all Char.isAlphanum = true := by decide
      exact .inl (List.all_eq_true.mp letters c (same ▸ lowered))
  · left
    intro c member
    rcases Ipv4.mem_parsed (by rw [parsed]; rfl) c member with point | digit
    · exact .inr point
    · exact .of_isDigit digit
  · exact .inr address

/-! ## What a host is read from -/

namespace Channel

theorem withoutBrackets_toList (host : String) :
    (withoutBrackets host).toList =
      (host.toList.dropWhile (· = '[')).rdropWhile (· = ']') := by
  rw [withoutBrackets, String.toList_ofList]
  rfl

theorem withoutBrackets_subset (host : String) : (withoutBrackets host).toList ⊆ host.toList := by
  rw [withoutBrackets_toList]
  intro c member
  exact (List.dropWhile_sublist _).subset ((List.rdropWhile_prefix _ _).subset member)

theorem withoutBrackets_free {host : String} (opening : '[' ∉ host.toList)
    (closing : ']' ∉ host.toList) : withoutBrackets host = host := by
  have kept {mark : Char} (free : mark ∉ host.toList) :
      ∀ c ∈ host.toList, decide (c = mark) = false := by
    intro c member
    exact decide_eq_false fun same => free (same ▸ member)
  apply String.toList_inj.mp
  rw [withoutBrackets_toList, Text.dropWhile_kept (kept opening), Text.rdropWhile_kept (kept closing)]

end Channel

namespace Url

theorem append_of_lastAt {text before after : List Char}
    (found : lastAt? text = some (before, after)) : text = before ++ '@' :: after := by
  simp only [lastAt?, List.span_eq_takeWhile_dropWhile] at found
  have parts := List.takeWhile_append_dropWhile (p := (· ≠ '@')) (l := text.reverse)
  split at found
  · rename_i back front shape
    cases found
    obtain ⟨rfl, cut⟩ := Prod.mk.inj shape
    have whole := congrArg List.reverse parts
    rw [cut, List.reverse_reverse] at whole
    exact whole.symm.trans (by simp)
  · cases found

theorem lastAt_free {text : List Char} (free : '@' ∉ text) : lastAt? text = none := by
  cases found : lastAt? text with
  | none => rfl
  | some parts =>
    rw [append_of_lastAt found] at free
    simp at free

theorem afterUser_subset {special : Bool} {text rest : List Char} {user : Bool}
    (read : afterUser special text = .ok (user, rest)) : rest ⊆ text := by
  have parts := List.takeWhile_append_dropWhile (p := fun c => !endsAuthority special c) (l := text)
  simp only [afterUser, List.span_eq_takeWhile_dropWhile] at read
  have tail {before after : List Char}
      (found : lastAt? (text.takeWhile fun c => !endsAuthority special c) = some (before, after)) :
      after ++ text.dropWhile (fun c => !endsAuthority special c) ⊆ text := by
    rw [append_of_lastAt found] at parts
    intro c member
    rw [← parts]
    rw [List.mem_append] at member
    simp [member]
  split at read
  · cases read
    exact List.Subset.refl text
  · rename_i after found
    split at read
    · cases read
    · cases read
      exact tail found
  · rename_i before after _ found
    cases read
    exact tail found

theorem afterUser_free (special : Bool) {text : List Char} (free : '@' ∉ text) :
    afterUser special text = .ok (false, text) := by
  simp only [afterUser, List.span_eq_takeWhile_dropWhile]
  rw [lastAt_free]
  intro member
  exact free ((List.takeWhile_prefix _).subset member)

theorem spanHost_append (special bracketed : Bool) (text : List Char) :
    (spanHost special bracketed text).1 ++ (spanHost special bracketed text).2 = text := by
  induction text generalizing bracketed with
  | nil => rfl
  | cons c text ih =>
    rw [spanHost]
    split
    · rfl
    · exact congrArg (c :: ·) (ih _)

theorem spanHost_colon {host : List Char}
    (plain : ∀ c ∈ host, c ≠ ':' ∧ c ≠ '[' ∧ endsAuthority false c = false) (rest : List Char) :
    spanHost false false (host ++ ':' :: rest) = (host, ':' :: rest) := by
  induction host with
  | nil => rfl
  | cons c host ih =>
    obtain ⟨colon, bracket, goesOn⟩ := plain c List.mem_cons_self
    have later := ih fun d member => plain d (List.mem_cons_of_mem c member)
    rw [List.cons_append, spanHost, if_neg (by simp [colon, goesOn])]
    simp [bracket, later]

theorem bracket_or_no_colon {written : List Char} {host : String}
    (read : writtenHost written = .ok host) : '[' ∈ written ∨ ':' ∉ host.toList := by
  rw [writtenHost] at read
  split at read
  · rename_i opened
    exact .inl (List.mem_of_mem_head? opened)
  · split at read
    · cases read
    · rename_i accepted
      cases read
      right
      rw [String.toList_ofList]
      intro colon
      rcases mem_escaped colon with ⟨source, -⟩ | ⟨-, -, other⟩
      · exact accepted (List.any_eq_true.mpr ⟨':', source, by decide⟩)
      · exact other rfl

theorem Bare.visible {c : Char} (bare : Bare c) : Visible c := by
  rcases bare with alphanumeric | rfl
  · change (decide (65 ≤ c.val ∧ c.val ≤ 90) || (decide (97 ≤ c.val) && decide (c.val ≤ 122)) ||
      (decide (48 ≤ c.val) && decide (c.val ≤ 57))) = true at alphanumeric
    simp only [Bool.or_eq_true, decide_eq_true_eq, Bool.and_eq_true, UInt32.le_iff_toNat_le]
      at alphanumeric
    change ((65 ≤ c.toNat ∧ c.toNat ≤ 90 ∨ 97 ≤ c.toNat ∧ c.toNat ≤ 122) ∨
      48 ≤ c.toNat ∧ c.toNat ≤ 57) at alphanumeric
    constructor
    · omega
    · omega
  · exact ⟨by decide, by decide⟩

theorem Bare.accepted {c : Char} (bare : Bare c) : isRefusedInHost c = false := by
  cases refused : isRefusedInHost c with
  | false => rfl
  | true =>
    have marks : ['\x00', '\t', '\n', '\r', ' ', '#', '/', ':', '<', '>', '?', '@', '[',
        '\\', ']', '^', '|'].all (fun d => !d.isAlphanum && d != '.') = true := by decide
    have other := List.all_eq_true.mp marks c (List.contains_iff_mem.mp refused)
    rcases bare with alphanumeric | rfl
    · simp [alphanumeric] at other
    · cases other

theorem Bare.ne {c : Char} (bare : Bare c) (mark : Char) (refused : isRefusedInHost mark = true) :
    c ≠ mark := by
  rintro rfl
  exact absurd bare.accepted (by simp [refused])

theorem writtenHost_bare {host : List Char} (bare : ∀ c ∈ host, Bare c) :
    writtenHost host = .ok (String.ofList host) := by
  have closed : host.head? ≠ some '[' := by
    intro opened
    exact (bare '[' (List.mem_of_mem_head? opened)).ne _ (by decide) rfl
  have accepted : host.any isRefusedInHost = false := by
    rw [List.any_eq_false]
    intro c member
    simp [(bare c member).accepted]
  have kept : ∀ c ∈ host, isControl c = false := by
    intro c member
    obtain ⟨low, high⟩ := (bare c member).visible
    simp only [isControl, Bool.or_eq_false_iff, decide_eq_false_iff_not]
    omega
  rw [writtenHost, if_neg closed, accepted, if_neg (by decide), escaped_kept kept]

/-! ## Ports -/

theorem isDigit_of_mem_port {port : Nat} {c : Char} (member : c ∈ Nat.toDigits 10 port) :
    c.isDigit = true :=
  Nat.isDigit_of_mem_toDigits (by decide) (by decide) member

theorem not_mem_port {mark : Char} (port : Nat) (other : mark.isDigit = false) :
    mark ∉ Nat.toDigits 10 port := by
  intro member
  rw [isDigit_of_mem_port member] at other
  cases other

theorem readPort_le {n : Nat} {any : Bool} {text rest : List Char} {port : Nat}
    (bound : n ≤ greatestPort) (read : readPort n any text = .ok (some port, rest)) :
    port ≤ greatestPort := by
  induction text generalizing n any with
  | nil =>
    rw [readPort] at read
    split at read
    · cases read
      exact bound
    · cases read
  | cons c text ih =>
    rw [readPort] at read
    dsimp only at read
    split at read
    · split at read
      · cases read
      · rename_i small
        exact ih (Nat.le_of_not_lt small) read
    · split at read
      · split at read
        · cases read
          exact bound
        · cases read
      · cases read

theorem readPort_digits {digits : List Char} (all : ∀ c ∈ digits, c.isDigit = true) (n : Nat)
    (small : Nat.ofDigitChars 10 digits n ≤ greatestPort) :
    readPort n true digits = .ok (some (Nat.ofDigitChars 10 digits n), []) := by
  induction digits generalizing n with
  | nil => rfl
  | cons c digits ih =>
    have step : Nat.ofDigitChars 10 (c :: digits) n =
        Nat.ofDigitChars 10 digits (n * 10 + (c.toNat - 48)) := by
      simp only [Nat.ofDigitChars_eq_foldl, List.foldl_cons, Nat.mul_comm]
      rfl
    rw [step] at small
    have bound := Nat.le_trans (Json.le_ofDigitChars digits _) small
    rw [readPort, if_pos (all c List.mem_cons_self), step]
    dsimp only
    rw [if_neg (by omega)]
    exact ih (fun d member => all d (List.mem_cons_of_mem c member)) _ small

theorem readPort_toDigits {port : Nat} (small : port ≤ greatestPort) :
    readPort 0 false (Nat.toDigits 10 port) = .ok (some port, []) := by
  have all : ∀ c ∈ Nat.toDigits 10 port, c.isDigit = true := fun _ => isDigit_of_mem_port
  have value := Nat.ofDigitChars_ten_toDigits (n := port)
  obtain ⟨c, digits, shape⟩ := List.exists_cons_of_ne_nil (Nat.toDigits_ne_nil (n := port) (b := 10))
  rw [shape] at all value ⊢
  have read := readPort_digits all 0 (by rwa [value])
  rw [value] at read
  -- The first digit leaves the flag behind.
  rw [readPort, if_pos (all c List.mem_cons_self)] at read ⊢
  exact read

/-! ## Host and port together -/

theorem authority_written {text rest : List Char} {host : Option String} {port : Option Nat}
    (read : authority false text = .ok (host, port, rest)) :
    (∀ name ∈ host, ∃ written ⊆ text, writtenHost written = .ok name) ∧
      ∀ number ∈ port, number ≤ greatestPort := by
  simp only [authority, Bool.false_and, Bool.false_eq_true, if_false] at read
  obtain ⟨⟨hasUser, after⟩, user, read⟩ := bind_eq_ok read
  obtain ⟨name, named, read⟩ := bind_eq_ok read
  dsimp only at named read
  have within : (spanHost false false after).1 ⊆ text := by
    intro c member
    apply afterUser_subset user
    rw [← spanHost_append false false after]
    exact List.mem_append_left _ member
  have source : ∀ n ∈ (if name.isEmpty = true then none else some name),
      ∃ written ⊆ text, writtenHost written = .ok n := by
    intro n member
    split at member
    · cases member
    · cases member
      exact ⟨_, within, named⟩
  split at read
  · cases read
  · split at read
    · obtain ⟨⟨number, tail⟩, numbered, read⟩ := bind_eq_ok read
      dsimp only at read
      split at read
      · cases read
      · cases read
        refine ⟨source, fun n member => ?_⟩
        cases member
        exact readPort_le (Nat.zero_le _) numbered
    · obtain ⟨⟨number, tail⟩, numbered, read⟩ := bind_eq_ok read
      dsimp only at read
      split at read
      · cases read
      · cases numbered
        cases read
        exact ⟨source, by simp⟩

theorem authority_rooted (path : List Char) :
    authority false ('/' :: path) = .ok (none, none, '/' :: path) := by
  have user : afterUser false ('/' :: path) = .ok (false, '/' :: path) := by
    simp [afterUser, List.span_eq_takeWhile_dropWhile, endsAuthority, lastAt?]
  have host : spanHost false false ('/' :: path) = ([], '/' :: path) := by
    rw [spanHost, if_pos (by decide)]
  have empty : writtenHost [] = .ok "" := by decide
  simp only [authority, user, bind, Except.bind, host, empty]
  rfl

theorem authority_port {host : List Char} {port : Nat} (some : host ≠ [])
    (bare : ∀ c ∈ host, Bare c) (small : port ≤ greatestPort) :
    authority false (host ++ ':' :: Nat.toDigits 10 port) =
      .ok (String.ofList host, port, []) := by
  have free : '@' ∉ host ++ ':' :: Nat.toDigits 10 port := by
    intro member
    rcases List.mem_append.mp member with inHost | later
    · exact (bare '@' inHost).ne _ (by decide) rfl
    · rcases List.mem_cons.mp later with colon | digit
      · exact absurd colon (by decide)
      · exact not_mem_port port (by decide) digit
  have cut : spanHost false false (host ++ ':' :: Nat.toDigits 10 port) =
      (host, ':' :: Nat.toDigits 10 port) := by
    apply spanHost_colon
    intro c member
    refine ⟨(bare c member).ne ':' (by decide), (bare c member).ne '[' (by decide), ?_⟩
    simp [endsAuthority, (bare c member).ne '/' (by decide),
      (bare c member).ne '?' (by decide), (bare c member).ne '#' (by decide)]
  have full : (String.ofList host).isEmpty = false := by
    simp [String.isEmpty_eq_false_iff, some]
  simp only [authority, afterUser_free false free, bind, Except.bind, cut, writtenHost_bare bare,
    full, readPort_toDigits small]
  rfl

end Url

end DebugGateway
