import Basil.Jwt

/-!
# A codec for compact texts

The laws of `JwsCodec` can be met.
-/

namespace Basil.Jwt.Code

open List

def nat (n : Nat) : List Char := List.replicate n '1' ++ ['0']

variable {r s : List Char}

theorem nat_split {m n : Nat} (h : nat m ++ r = nat n ++ s) : m = n ∧ r = s := by
  induction m generalizing n with
  | zero =>
    cases n with
    | zero => simpa [nat] using h
    | succ n => simp [nat, replicate_succ] at h
  | succ m ih =>
    cases n with
    | zero => simp [nat, replicate_succ] at h
    | succ n =>
      have htail : nat m ++ r = nat n ++ s := by
        simpa [nat, replicate_succ] using h
      have hrest := ih htail
      exact ⟨by omega, hrest.2⟩

def nats : List Nat → List Char
  | [] => nat 0
  | n :: ns => nat 1 ++ (nat n ++ nats ns)

theorem nats_split {ms ns : List Nat} (h : nats ms ++ r = nats ns ++ s) : ms = ns ∧ r = s := by
  induction ms generalizing ns with
  | nil =>
    cases ns with
    | nil => exact ⟨rfl, (nat_split h).2⟩
    | cons n ns =>
      cases congrArg head? h
  | cons m ms ih =>
    cases ns with
    | nil =>
      cases congrArg head? h
    | cons n ns =>
      simp only [nats, append_assoc] at h
      have hhead := nat_split (nat_split h).2
      have htail := ih hhead.2
      exact ⟨by rw [hhead.1, htail.1], htail.2⟩

def text (s : String) : List Char := nats (s.toList.map Char.toNat)

theorem text_split {a b : String} (h : text a ++ r = text b ++ s) : a = b ∧ r = s := by
  have hsplit := nats_split h
  have hinj : Function.Injective Char.toNat := fun c d hcd => Char.toNat_inj.mp hcd
  have hchars : a.toList = b.toList := map_injective_iff.mpr hinj hsplit.1
  exact ⟨String.toList_inj.mp hchars, hsplit.2⟩

def int : Int → List Char
  | .ofNat n => nat 0 ++ nat n
  | .negSucc n => nat 1 ++ nat n

theorem int_split {a b : Int} (h : int a ++ r = int b ++ s) : a = b ∧ r = s := by
  cases a with
  | ofNat =>
    cases b with
    | ofNat =>
      simp only [int, append_assoc] at h
      have hrest := nat_split (nat_split h).2
      exact ⟨by rw [hrest.1], hrest.2⟩
    | negSucc =>
      cases congrArg head? h
  | negSucc =>
    cases b with
    | ofNat =>
      cases congrArg head? h
    | negSucc =>
      simp only [int, append_assoc] at h
      have hrest := nat_split (nat_split h).2
      exact ⟨by rw [hrest.1], hrest.2⟩

mutual

def json : JsonValue → List Char
  | .null => nat 0
  | .bool b => nat 1 ++ nat b.toNat
  | .num n => nat 2 ++ int n
  | .str s => nat 3 ++ text s
  | .arr items => nat 4 ++ jsons items
  | .obj members => nat 5 ++ fields members

def jsons : List JsonValue → List Char
  | [] => nat 0
  | v :: vs => nat 1 ++ (json v ++ jsons vs)

def fields : List (String × JsonValue) → List Char
  | [] => nat 0
  | (k, v) :: rest => nat 1 ++ (text k ++ (json v ++ fields rest))

end

def tag : JsonValue → Nat
  | .null => 0
  | .bool _ => 1
  | .num _ => 2
  | .str _ => 3
  | .arr _ => 4
  | .obj _ => 5

def payload : JsonValue → List Char
  | .null => []
  | .bool b => nat b.toNat
  | .num n => int n
  | .str s => text s
  | .arr items => jsons items
  | .obj members => fields members

theorem json_eq (v : JsonValue) : json v = nat (tag v) ++ payload v := by
  cases v <;> simp [json, tag, payload]

mutual

theorem json_split (v w : JsonValue) (r s : List Char) (h : json v ++ r = json w ++ s) :
    v = w ∧ r = s := by
  rw [json_eq v, json_eq w, append_assoc, append_assoc] at h
  obtain ⟨htag, hpayload⟩ := nat_split h
  -- equal tags leave only the diagonal of the case split
  cases v with
  | null =>
    cases w with
    | null => exact ⟨rfl, hpayload⟩
    | _ => simp [tag] at htag
  | bool b =>
    cases w with
    | bool c =>
      obtain ⟨hb, hrest⟩ := nat_split hpayload
      cases b <;> cases c <;> simp at hb <;> exact ⟨rfl, hrest⟩
    | _ => simp [tag] at htag
  | num =>
    cases w with
    | num =>
      obtain ⟨hn, hrest⟩ := int_split hpayload
      exact ⟨by rw [hn], hrest⟩
    | _ => simp [tag] at htag
  | str =>
    cases w with
    | str =>
      obtain ⟨hb, hrest⟩ := text_split hpayload
      exact ⟨by rw [hb], hrest⟩
    | _ => simp [tag] at htag
  | arr items =>
    cases w with
    | arr items' =>
      obtain ⟨hitems, hrest⟩ := jsons_split items items' r s hpayload
      exact ⟨by rw [hitems], hrest⟩
    | _ => simp [tag] at htag
  | obj members =>
    cases w with
    | obj members' =>
      obtain ⟨hmembers, hrest⟩ := fields_split members members' r s hpayload
      exact ⟨by rw [hmembers], hrest⟩
    | _ => simp [tag] at htag

theorem jsons_split (vs ws : List JsonValue) (r s : List Char) (h : jsons vs ++ r = jsons ws ++ s) :
    vs = ws ∧ r = s := by
  cases vs with
  | nil =>
    cases ws with
    | nil => exact ⟨rfl, (nat_split h).2⟩
    | cons w ws =>
      cases congrArg head? h
  | cons v vs =>
    cases ws with
    | nil =>
      cases congrArg head? h
    | cons w ws =>
      simp only [jsons, append_assoc] at h
      obtain ⟨hv, htail⟩ := json_split v w _ _ (nat_split h).2
      obtain ⟨hvs, hrest⟩ := jsons_split vs ws r s htail
      exact ⟨by rw [hv, hvs], hrest⟩

theorem fields_split (xs ys : List (String × JsonValue)) (r s : List Char)
    (h : fields xs ++ r = fields ys ++ s) : xs = ys ∧ r = s := by
  cases xs with
  | nil =>
    cases ys with
    | nil => exact ⟨rfl, (nat_split h).2⟩
    | cons y ys =>
      obtain ⟨k, w⟩ := y
      cases congrArg head? h
  | cons x xs =>
    obtain ⟨k, v⟩ := x
    cases ys with
    | nil =>
      cases congrArg head? h
    | cons y ys =>
      obtain ⟨_, w⟩ := y
      simp only [fields, append_assoc] at h
      obtain ⟨hk, hvalue⟩ := text_split (nat_split h).2
      obtain ⟨hv, htail⟩ := json_split v w _ _ hvalue
      obtain ⟨hxs, hrest⟩ := fields_split xs ys r s htail
      exact ⟨by rw [hk, hv, hxs], hrest⟩

end

/-! ### The letters -/

def Binary (cs : List Char) : Prop := ∀ c ∈ cs, c = '0' ∨ c = '1'

theorem binary_nat (n : Nat) : Binary (nat n) := by
  intro c hc
  simp only [nat, mem_append, mem_replicate, mem_singleton] at hc
  rcases hc with ⟨-, rfl⟩ | rfl
  · exact .inr rfl
  · exact .inl rfl

theorem Binary.append {xs ys : List Char} (hx : Binary xs) (hy : Binary ys) : Binary (xs ++ ys) := by
  intro c hc
  rcases mem_append.mp hc with h | h
  · exact hx c h
  · exact hy c h

theorem Binary.noDot {cs : List Char} (h : Binary cs) : '.' ∉ cs := by
  intro hmem
  rcases h '.' hmem with h0 | h1
  · exact absurd h0 (by decide)
  · exact absurd h1 (by decide)

theorem binary_nats (ns : List Nat) : Binary (nats ns) := by
  induction ns with
  | nil => exact binary_nat 0
  | cons n ns ih => exact (binary_nat 1).append ((binary_nat n).append ih)

theorem binary_int (n : Int) : Binary (int n) := by
  cases n with
  | ofNat n => exact (binary_nat 0).append (binary_nat n)
  | negSucc n => exact (binary_nat 1).append (binary_nat n)

mutual

theorem binary_json (v : JsonValue) : Binary (json v) := by
  rw [json_eq]
  refine (binary_nat _).append ?_
  cases v with
  | null => intro c hc; cases hc
  | bool => exact binary_nat _
  | num n => exact binary_int n
  | str => exact binary_nats _
  | arr items => exact binary_jsons items
  | obj members => exact binary_fields members

theorem binary_jsons (vs : List JsonValue) : Binary (jsons vs) := by
  cases vs with
  | nil => exact binary_nat 0
  | cons v vs => exact (binary_nat 1).append ((binary_json v).append (binary_jsons vs))

theorem binary_fields (xs : List (String × JsonValue)) : Binary (fields xs) := by
  cases xs with
  | nil => exact binary_nat 0
  | cons x xs =>
    obtain ⟨_, v⟩ := x
    exact (binary_nat 1).append ((binary_nats _).append ((binary_json v).append (binary_fields xs)))

end

/-! ### The codec -/

def claimsText (claims : Claims) : String := String.ofList (fields (Table.toPairs claims))

theorem claimsText_injective : Function.Injective claimsText := by
  intro a b h
  have hchars : fields (Table.toPairs a) ++ [] = fields (Table.toPairs b) ++ [] := by
    simpa [claimsText] using congrArg String.toList h
  have hpairs := (fields_split _ _ _ _ hchars).1
  apply AList.ext
  have hinj : Function.Injective fun e : Sigma fun _ : String => JsonValue => (e.1, e.2) := by
    rintro ⟨_, _⟩ ⟨_, _⟩ hkl
    cases hkl
    rfl
  exact map_injective_iff.mpr hinj hpairs

def algNumber : SvidAlg → Nat
  | .edDsa => 0
  | .rs256 => 1
  | .es256 => 2
  | .es384 => 3

def headerText (header : SvidAlg × String) : String :=
  String.ofList (nat (algNumber header.1) ++ text header.2)

theorem headerText_injective : Function.Injective headerText := by
  rintro ⟨alg, kid⟩ ⟨alg', kid'⟩ h
  have hchars : nat (algNumber alg) ++ text kid = nat (algNumber alg') ++ text kid' := by
    simpa [headerText] using congrArg String.toList h
  obtain ⟨halg, htext⟩ := nat_split hchars
  have hkid : kid = kid' := by
    have hnil : text kid ++ [] = text kid' ++ [] := by rw [htext]
    exact (text_split hnil).1
  have hsame : alg = alg' := by
    cases alg <;> cases alg' <;> first | rfl | (simp [algNumber] at halg)
  rw [hkid, hsame]

def sigText (sig : Bytes) : String := String.ofList (nats (sig.map UInt8.toNat))

theorem sigText_injective : Function.Injective sigText := by
  intro a b h
  have hchars : nats (a.map UInt8.toNat) ++ [] = nats (b.map UInt8.toNat) ++ [] := by
    simpa [sigText] using congrArg String.toList h
  have hinj : Function.Injective UInt8.toNat := fun x y hxy => UInt8.toNat_inj.mp hxy
  exact map_injective_iff.mpr hinj (nats_split hchars).1


noncomputable def codec : JwsCodec where
  encodeHeader alg kid := headerText (alg, kid)
  encodeClaims := claimsText
  encodeSig := sigText
  parseAlg s := (Function.partialInv headerText s).map Prod.fst
  parseClaims := Function.partialInv claimsText
  parseSig := Function.partialInv sigText
  parseAlg_encode alg kid := by
    rw [(headerText_injective.isPartialInv _ _).mpr rfl]
    rfl
  parseClaims_encode claims :=
    (claimsText_injective.isPartialInv _ _).mpr rfl
  parseSig_encode sig := (sigText_injective.isPartialInv _ _).mpr rfl
  header_noDot alg kid := by
    rw [headerText, String.toList_ofList]
    exact ((binary_nat _).append (binary_nats _)).noDot
  claims_noDot claims := by
    rw [claimsText, String.toList_ofList]
    exact (binary_fields _).noDot
  sig_noDot sig := by
    rw [sigText, String.toList_ofList]
    exact (binary_nats _).noDot

end Basil.Jwt.Code
