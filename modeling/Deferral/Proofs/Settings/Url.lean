import Deferral.Cache.Redis
import Deferral.Proofs.Json.Roundtrip
import Deferral.Proofs.Text.Basic
import Mathlib.Data.List.Infix

/-!
# What a URL says

A URL is read by the generic syntax: the authority ends at the first slash, question mark or hash;
its user part ends at its last at sign, and the password begins after the first colon of the user
part, with escapes for some of its bytes. The URL of settings has the password as it is, so it says
what the settings say exactly if no character of the password ends an authority and nothing in it
looks like an escape.

## Main results

* `unescaped_eq_iff` — which texts stand for their own bytes;
* `readPlace?_password_iff` — which passwords are read as they were written;
* `read?_redisUrl_eq_iff` — which settings can be read off their URL.
-/

namespace Deferral

open Decimal
open Text (bytes)

/-- What the URL of a server says, with the password told by its bytes. -/
structure UrlReading where
  host : List Char
  port : Nat
  db : Int
  password : Option (List UInt8)
deriving DecidableEq

namespace UrlReading

open ServerAddress (cutAt cutUser)

variable {p : Char → Bool} {c : Char} {cs as us place host authority user : List Char}
  {bs : List UInt8}

/-! ### Reading by the generic syntax -/

/-- The bytes that a text with escapes stands for: a percent sign and two hexadecimal digits stand
for one byte, any other character for its own bytes. -/
def unescaped : List Char → List UInt8
  | '%' :: a :: b :: r =>
      match Text.readHex? 0 [a, b] with
      | some n => UInt8.ofNat n :: unescaped r
      | none => String.utf8EncodeChar '%' ++ unescaped (a :: b :: r)
  | c :: r => String.utf8EncodeChar c ++ unescaped r
  | [] => []

/-- Characters that end an authority. -/
def endsAuthority (c : Char) : Bool := c == '/' || c == '?' || c == '#'

/-- Characters that end a path. -/
def endsPath (c : Char) : Bool := c == '?' || c == '#'

/-- The password in a user part: what stands after its first colon. -/
def password? (user : List Char) : Option (List UInt8) :=
  match (cutAt (· == ':') user).2 with
  | _ :: password => some (unescaped password)
  | [] => none

/-- A decimal number with an optional minus sign. -/
def integer? : List Char → Option Int
  | '-' :: r => (Text.readDigits? r).map fun n : Nat => -(n : Int)
  | cs => (Text.readDigits? cs).map Int.ofNat

/-- The path of what stands after an authority, without its slash. -/
def path : List Char → List Char
  | '/' :: r => (cutAt endsPath r).1
  | _ => []

/-- The password in an authority, if there is one. -/
def passwordIn (authority : List Char) : Option (List UInt8) :=
  (cutUser authority).1.bind password?

/-- What stands in a URL after its scheme: an authority with user part, host and port, and a path
that is the number of the database. -/
def readPlace? (cs : List Char) : Option UrlReading :=
  let (authority, rest) := cutAt endsAuthority cs
  let (host, port) := cutAt (· == ':') (cutUser authority).2
  match Text.readDigits? (port.drop 1), integer? (path rest) with
  | some port, some db => some ⟨host, port, db, passwordIn authority⟩
  | _, _ => none

/-- Reads the URL of a server. -/
def read? (url : List Char) : Option UrlReading :=
  let scheme := "redis://".toList
  if scheme.isPrefixOf url then readPlace? (url.drop scheme.length) else none

/-! ### Cutting -/

/-- A text is cut in front of the first character of a kind. -/
theorem cutAt_eq (p : Char → Bool) (cs : List Char) :
    cutAt p cs = (cs.takeWhile fun c => !p c, cs.dropWhile fun c => !p c) :=
  List.span_eq_takeWhile_dropWhile _ cs

/-- What stands before that character is the first part. -/
theorem cutAt_append (has : ∀ c ∈ as, p c = false) (hcs : ∀ c ∈ cs.head?, p c = true) :
    cutAt p (as ++ cs) = (as, cs) := by
  rw [cutAt_eq, takeWhile_append_of_stop (by simpa using has) (by simpa using hcs),
    dropWhile_append_of_stop (by simpa using has) (by simpa using hcs)]

/-- A text without such a character is not cut. -/
theorem cutAt_self (has : ∀ c ∈ as, p c = false) : cutAt p as = (as, []) := by
  have hcut : cutAt p (as ++ []) = (as, []) := cutAt_append has nofun
  rwa [List.append_nil] at hcut

/-- Without an at sign there is no user part. -/
theorem cutUser_of_notMem (h : '@' ∉ place) : cutUser place = (none, place) := by
  have hcut : cutAt (· == '@') place.reverse = (place.reverse, []) := cutAt_self (by grind)
  simp only [cutUser, show place.reverse.span (· != '@') = _ from hcut, List.reverse_reverse]

/-- The user part ends at the last at sign. -/
theorem cutUser_append (h : '@' ∉ place) :
    cutUser (user ++ '@' :: place) = (some user, place) := by
  have hcut : cutAt (· == '@') (place.reverse ++ '@' :: user.reverse) =
      (place.reverse, '@' :: user.reverse) := cutAt_append (by grind) (by simp)
  have hreverse : (user ++ '@' :: place).reverse = place.reverse ++ '@' :: user.reverse := by simp
  simp only [cutUser, hreverse, show List.span (· != '@') _ = _ from hcut, List.reverse_reverse]

/-- A text has an at sign, and then a last one, or it has none. -/
theorem eq_append_or_notMem (cs : List Char) :
    (∃ user place, cs = user ++ '@' :: place ∧ '@' ∉ place) ∨ '@' ∉ cs := by
  by_cases hmem : '@' ∈ cs
  · obtain ⟨place, user, hcut, hplace⟩ := List.eq_append_cons_of_mem (List.mem_reverse.mpr hmem)
    refine .inl ⟨user.reverse, place.reverse, ?_, fun h => hplace (List.mem_reverse.mp h)⟩
    have hcs := congrArg List.reverse hcut
    simpa using hcs
  · exact .inr hmem

/-! ### Escapes -/

/-- Every character has bytes. -/
theorem length_utf8EncodeChar_pos (c : Char) : 0 < (String.utf8EncodeChar c).length :=
  List.length_pos_iff.mpr String.utf8EncodeChar_ne_nil

/-- A text stands for no more bytes than its own. -/
theorem length_unescaped_le (cs : List Char) :
    (unescaped cs).length ≤ (cs.flatMap String.utf8EncodeChar).length := by
  fun_induction unescaped cs with
  | case1 a b r n h ih =>
      have hpos := length_utf8EncodeChar_pos '%'
      simp only [List.length_cons, List.flatMap_cons, List.length_append]
      omega
  | case2 a b r h ih =>
      rw [List.flatMap_cons, List.length_append, List.length_append]
      omega
  | case3 c r h ih =>
      rw [List.flatMap_cons, List.length_append, List.length_append]
      omega
  | case4 => exact Nat.le_refl 0

/-- Whether nothing in a text looks like an escape. -/
def HasNoEscape (cs : List Char) : Prop :=
  ∀ a b, ['%', a, b] <:+: cs → Text.readHex? 0 [a, b] = none

/-- An escape at the head of a text, or one further on. -/
theorem hasNoEscape_cons_iff :
    HasNoEscape (c :: cs) ↔
      (∀ a b, ['%', a, b] <+: c :: cs → Text.readHex? 0 [a, b] = none) ∧ HasNoEscape cs := by
  simp only [HasNoEscape, List.infix_cons_iff]
  grind

/-- **Escapes.** A text stands for its own bytes exactly if nothing in it looks like an escape. -/
theorem unescaped_eq_iff (cs : List Char) :
    unescaped cs = cs.flatMap String.utf8EncodeChar ↔ HasNoEscape cs := by
  fun_induction unescaped cs with
  | case1 a b r n h ih =>
      -- Three characters would stand for one byte.
      refine iff_of_false (fun heq => ?_) fun hno => ?_
      · have hle := length_unescaped_le r
        have hpercent := length_utf8EncodeChar_pos '%'
        have ha := length_utf8EncodeChar_pos a
        have hlen := congrArg List.length heq
        simp only [List.length_cons, List.flatMap_cons, List.length_append] at hlen
        omega
      · have hnone := hno a b (List.infix_append [] _ r)
        rw [h] at hnone
        cases hnone
  | case2 a b r h ih =>
      rw [List.flatMap_cons, List.append_cancel_left_eq, ih, hasNoEscape_cons_iff (c := '%')]
      refine (and_iff_right fun x y hxy => ?_).symm
      obtain ⟨t, ht⟩ := hxy
      simp only [List.cons_append, List.nil_append, List.cons.injEq, true_and] at ht
      obtain ⟨rfl, rfl, -⟩ := ht
      exact h
  | case3 c r h ih =>
      rw [List.flatMap_cons, List.append_cancel_left_eq, ih, hasNoEscape_cons_iff]
      refine (and_iff_right fun x y hxy => ?_).symm
      obtain ⟨t, ht⟩ := hxy
      obtain ⟨hc, hr⟩ := List.cons.inj ht
      exact absurd hr.symm (h x y t hc.symm)
  | case4 => exact iff_of_true rfl fun a b h => absurd (List.infix_nil.mp h) (List.cons_ne_nil _ _)

/-! ### Passwords -/

/-- Behind a colon stands a password. -/
theorem password?_cons (password : List Char) :
    password? (':' :: password) = some (unescaped password) := rfl

/-- A password is shorter than the user part it stands in. -/
theorem length_lt_of_password? (h : password? user = some bs) :
    bs.length < (user.flatMap String.utf8EncodeChar).length := by
  rw [password?, cutAt_eq] at h
  have huser := List.takeWhile_append_dropWhile (p := fun c => !(c == ':')) (l := user)
  split at h
  · next c password hcut =>
      obtain rfl := Option.some.inj h
      rw [← huser, show user.dropWhile _ = c :: password from hcut, List.flatMap_append,
        List.flatMap_cons, List.length_append, List.length_append]
      have hle := length_unescaped_le password
      have hpos := length_utf8EncodeChar_pos c
      omega
  · cases h

/-- A password is shorter than the authority it stands in. -/
theorem length_lt_of_passwordIn (h : passwordIn authority = some bs) :
    bs.length < (authority.flatMap String.utf8EncodeChar).length := by
  rcases eq_append_or_notMem authority with ⟨user, place, rfl, hplace⟩ | hnone
  · rw [passwordIn, cutUser_append hplace] at h
    have hlt := length_lt_of_password? h
    rw [List.flatMap_append, List.length_append]
    omega
  · rw [passwordIn, cutUser_of_notMem hnone] at h
    cases h

/-! ### Places -/

/-- An integer reads back. -/
theorem integer?_intText (n : Int) : integer? (intText n) = some n := by
  rw [intText]
  split
  · next h =>
      rw [integer?, readDigits?_natText, Option.map_some]
      congr 1
      omega
  · next h =>
      rw [integer?, readDigits?_natText, Option.map_some]
      · congr 1
        exact Int.natAbs_of_nonneg (by omega)
      · exact fun r => natText_ne_minus

/-- Whether a text can stand as the name of a host: it has none of the characters that delimit the
parts of an authority or end it. -/
def IsHost (host : List Char) : Prop := ∀ c ∈ host, c ∉ [':', '@', '/', '?', '#']

/-- What stands in a URL after the user part. -/
def placeText (host : List Char) (port : Nat) (db : Int) : List Char :=
  host ++ ':' :: natText port ++ '/' :: intText db

/-- A natural number is written in digits only. -/
theorem not_mem_natText {n : Nat} (hc : c.isDigit = false) : c ∉ natText n := fun hmem =>
  absurd (isDigit_of_mem_natText hmem) (by simp [hc])

/-- The path is the number behind the slash. -/
theorem path_slash_intText (n : Int) : path ('/' :: intText n) = intText n := by
  have hends : ∀ c ∈ intText n, endsPath c = false := fun c hc => by
    have hint := isIntChar_of_mem_intText hc
    rw [endsPath, Bool.or_eq_false_iff]
    constructor <;> rw [beq_eq_false_iff_ne] <;> rintro rfl <;> cases hint
  rw [path, cutAt_self hends]

/-- What an authority before the number of a database says, if the authority is a user part, or
none, and then host and port. -/
theorem readPlace?_of_cutUser {part : Option (List Char)} {port : Nat} (hhost : IsHost host)
    (hends : ∀ c ∈ authority, endsAuthority c = false)
    (hcut : cutUser authority = (part, host ++ ':' :: natText port)) (db : Int) :
    readPlace? (authority ++ '/' :: intText db) = some ⟨host, port, db, part.bind password?⟩ := by
  have hplace : cutAt endsAuthority (authority ++ '/' :: intText db) =
      (authority, '/' :: intText db) := cutAt_append hends (by simp [endsAuthority])
  have hport : cutAt (· == ':') (host ++ ':' :: natText port) = (host, ':' :: natText port) :=
    cutAt_append (fun c hc => by simpa using fun h => hhost c hc (by simp [h])) (by simp)
  simp only [readPlace?, hplace, hport, hcut, List.drop_succ_cons, List.drop_zero,
    readDigits?_natText, path_slash_intText, integer?_intText, passwordIn]

/-- Neither a host nor a port ends the authority. -/
theorem endsAuthority_of_mem_place {port : Nat} (hhost : IsHost host)
    (hc : c ∈ host ++ ':' :: natText port) : endsAuthority c = false := by
  rw [endsAuthority, Bool.or_eq_false_iff, Bool.or_eq_false_iff]
  simp only [List.mem_append, List.mem_cons] at hc
  rcases hc with hc | rfl | hc
  · have hhost := hhost c hc
    simp_all
  · decide
  · have hdigit := isDigit_of_mem_natText hc
    refine ⟨⟨?_, ?_⟩, ?_⟩ <;> rw [beq_eq_false_iff_ne] <;> rintro rfl <;> cases hdigit

/-- There is no at sign in either. -/
theorem at_notMem_place {port : Nat} (hhost : IsHost host) :
    '@' ∉ host ++ ':' :: natText port := by
  simp only [List.mem_append, List.mem_cons, not_or]
  exact ⟨fun h => hhost _ h (by simp), by decide, not_mem_natText rfl⟩

/-- A place without a user part. -/
theorem readPlace?_placeText (hhost : IsHost host) (port : Nat) (db : Int) :
    readPlace? (placeText host port db) = some ⟨host, port, db, none⟩ :=
  readPlace?_of_cutUser hhost (fun _ => endsAuthority_of_mem_place hhost)
    (cutUser_of_notMem (at_notMem_place hhost)) db

/-- A place after a user part that does not end the authority. -/
theorem readPlace?_append (hhost : IsHost host) (huser : ∀ c ∈ user, endsAuthority c = false)
    (port : Nat) (db : Int) :
    readPlace? (user ++ '@' :: placeText host port db) =
      some ⟨host, port, db, password? user⟩ := by
  have hends : ∀ c ∈ user ++ '@' :: (host ++ ':' :: natText port), endsAuthority c = false := by
    intro c hc
    rcases List.mem_append.mp hc with hc | hc
    · exact huser c hc
    · rcases List.mem_cons.mp hc with rfl | hc
      · decide
      · exact endsAuthority_of_mem_place hhost hc
  have hread := readPlace?_of_cutUser hhost hends (cutUser_append (at_notMem_place hhost)) db
  simpa [placeText] using hread

/-- The password that is read is the one in the authority. -/
theorem passwordIn_of_readPlace? {reading : UrlReading} (h : readPlace? cs = some reading) :
    passwordIn (cutAt endsAuthority cs).1 = reading.password := by
  simp only [readPlace?] at h
  split at h
  · cases h
    rfl
  · cases h

/-- Where a user part ends the authority, the password that is read is short of the rest of it. -/
theorem length_lt_of_readPlace? {reading : UrlReading} (hc : c ∈ user)
    (hends : endsAuthority c = true) (h : readPlace? (user ++ cs) = some reading)
    (hbs : reading.password = some bs) :
    bs.length + 1 < (user.flatMap String.utf8EncodeChar).length := by
  have huser : user.takeWhile (fun d => !endsAuthority d) ++
      user.dropWhile (fun d => !endsAuthority d) = user := List.takeWhile_append_dropWhile
  obtain ⟨d, rest, hrest⟩ : ∃ d rest, user.dropWhile (fun d => !endsAuthority d) = d :: rest := by
    refine List.exists_cons_of_ne_nil fun hnil => ?_
    simpa [hends] using List.dropWhile_eq_nil_iff.mp hnil c hc
  have hd : endsAuthority d = true := by
    simpa using stop_dropWhile (fun d => !endsAuthority d) user d (by rw [hrest]; rfl)
  have hcut : cutAt endsAuthority (user ++ cs) =
      (user.takeWhile (fun d => !endsAuthority d), d :: rest ++ cs) := by
    rw [← cutAt_append (fun e he => by simpa using List.mem_takeWhile_imp he) (by simpa using hd),
      ← List.append_assoc, ← hrest, huser]
  have hread := passwordIn_of_readPlace? h
  rw [hcut, hbs] at hread
  have hlt : bs.length <
      ((user.takeWhile fun d => !endsAuthority d).flatMap String.utf8EncodeChar).length :=
    length_lt_of_passwordIn hread
  have hpos := length_utf8EncodeChar_pos d
  rw [← huser, hrest, List.flatMap_append, List.flatMap_cons, List.length_append,
    List.length_append]
  omega

/-- **Passwords.** A place after a password is read with that password exactly if no character of it
ends an authority and nothing in it looks like an escape. -/
theorem readPlace?_password_iff (hhost : IsHost host) (password : List Char) (port : Nat)
    (db : Int) :
    readPlace? (':' :: password ++ '@' :: placeText host port db) =
        some ⟨host, port, db, some (password.flatMap String.utf8EncodeChar)⟩ ↔
      HasNoEscape password ∧ ∀ c ∈ password, endsAuthority c = false := by
  by_cases hends : ∀ c ∈ password, endsAuthority c = false
  · -- The whole password is read, and its escapes are undone.
    have huser : ∀ c ∈ ':' :: password, endsAuthority c = false :=
      List.forall_mem_cons.mpr ⟨rfl, hends⟩
    rw [readPlace?_append hhost huser, password?_cons, and_iff_left hends, ← unescaped_eq_iff]
    simp only [Option.some.injEq, mk.injEq, true_and]
  · -- What is read of the password has fewer bytes.
    refine iff_of_false (fun h => ?_) fun h => hends h.2
    obtain ⟨c, hc, hend⟩ : ∃ c ∈ password, endsAuthority c = true := by
      simpa using hends
    have hlt := length_lt_of_readPlace? (List.mem_cons_of_mem ':' hc) hend h rfl
    rw [List.flatMap_cons, List.length_append] at hlt
    have hcolon : (String.utf8EncodeChar ':').length = 1 := by decide
    omega

end UrlReading

namespace CacheSettings

open UrlReading

variable {s : CacheSettings}

/-- What settings say about their server, with defaults filled in. -/
def said (s : CacheSettings) : UrlReading :=
  ⟨(s.host.getD defaultHost).toList, s.port.getD defaultPort, s.db.getD 0, s.password.map bytes⟩

/-- The user part of the URL of settings, with its at sign. -/
def userText (s : CacheSettings) : List Char :=
  match s.password with
  | some password => ':' :: password.toList ++ ['@']
  | none => []

/-- The URL is a scheme, a user part and what stands after it. -/
theorem toList_redisUrl (s : CacheSettings) :
    s.redisUrl.toList =
      "redis://".toList ++ (s.userText ++ placeText s.said.host s.said.port s.said.db) := by
  cases hpassword : s.password <;>
    simp [redisUrl, hpassword, userText, placeText, said, natString, intString]

/-- What the reader is given is the user part and what stands after it. -/
theorem read?_redisUrl (s : CacheSettings) :
    read? s.redisUrl.toList =
      readPlace? (s.userText ++ placeText s.said.host s.said.port s.said.db) := by
  rw [toList_redisUrl, read?, if_pos (by simp), List.drop_left]

/-- **The URL.** The URL of settings says what the settings say exactly if no character of the
password ends an authority and nothing in it looks like an escape, whatever its other characters
and whichever host, port and database are set. -/
theorem read?_redisUrl_eq_iff (hhost : IsHost s.said.host) :
    read? s.redisUrl.toList = some s.said ↔
      ∀ password ∈ s.password, HasNoEscape password.toList ∧
        ∀ c ∈ password.toList, endsAuthority c = false := by
  rw [read?_redisUrl]
  cases hpassword : s.password with
  | none =>
      have hsaid : s.said.password = none := by rw [said, hpassword, Option.map_none]
      refine iff_of_true ?_ nofun
      rw [userText, hpassword, List.nil_append, readPlace?_placeText hhost, ← hsaid]
  | some password =>
      have hsaid : s.said.password = some (password.toList.flatMap String.utf8EncodeChar) := by
        rw [said, hpassword, Option.map_some, Text.bytes_eq]
      have hread := readPlace?_password_iff hhost password.toList s.said.port s.said.db
      simp only [Option.mem_def, Option.some.injEq, forall_eq', userText, hpassword,
        List.append_assoc, List.singleton_append]
      rwa [← hsaid] at hread

/-- A password may have colons and at signs, and percent signs that begin no escape. -/
theorem read?_redisUrl_delimited :
    let s : CacheSettings := { memory with
      store := .redis, host := some "cache-1.local", port := some 7000, db := some (-2),
      password := some "p:a@5%" }
    IsHost s.said.host ∧ read? s.redisUrl.toList = some s.said := by
  intro s
  have hhost : ∀ c ∈ s.said.host, c ∉ [':', '@', '/', '?', '#'] := by simp [s, said, defaultHost]
  refine ⟨hhost, (read?_redisUrl_eq_iff hhost).mpr fun password hpassword => ?_⟩
  obtain rfl : "p:a@5%" = password := Option.some.inj hpassword
  exact ⟨(unescaped_eq_iff _).mp (by decide), by simp [endsAuthority]⟩

/-- A slash in a password ends the authority, and what stands before it is no place. -/
theorem read?_redisUrl_slash :
    let s : CacheSettings := { memory with store := .redis, password := some "a/b" }
    IsHost s.said.host ∧ read? s.redisUrl.toList ≠ some s.said := by
  intro s
  have hhost : ∀ c ∈ s.said.host, c ∉ [':', '@', '/', '?', '#'] := by
    simp [s, said, memory, defaultHost]
  have hnone : readPlace? (s.userText ++ placeText s.said.host s.said.port s.said.db) = none := by
    decide
  rw [read?_redisUrl, hnone]
  exact ⟨hhost, nofun⟩

end CacheSettings

end Deferral
