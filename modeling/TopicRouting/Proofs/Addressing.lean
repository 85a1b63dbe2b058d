import TopicRouting.Broker.Settings
import TopicRouting.Proofs.Cutting

/-! A URL of a broker gives back what it was written of. Signs that separate its parts may stand in
a user or a password too: the last one of users counts, and the first one of passwords. -/
namespace TopicRouting

theorem Text.lowerOfAscii {text : Text} (ascii : ∀ c ∈ text, c.toNat < 0x80) :
    lower text = lowerAscii text := by
  have after (before : Text) : lowerAfter before text = lowerAscii text := by
    induction text generalizing before with
    | nil => rfl
    | cons c text ih =>
      obtain ⟨small, rest⟩ := List.forall_mem_cons.mp ascii
      have noSigma : c.toNat ≠ 0x3A3 := by omega
      rw [lowerAfter, if_neg noSigma, lowerChar, if_pos small, ih rest]
      rfl
  exact after []

theorem asciiAll {P : Char → Prop} (all : ∀ n < 128, P (Char.ofNat n)) {c : Char}
    (small : c.toNat < 128) : P c := by
  have same := all c.toNat small
  rwa [Char.ofNat_toNat] at same

theorem eachChar {P : Char → Prop} [DecidablePred P] {text : Text}
    (all : text.all (fun c => P c) = true) : ∀ c ∈ text, P c := fun c member =>
  of_decide_eq_true (List.all_eq_true.mp all c member)

theorem asciiAlphanum {c : Char} (letter : c.isAlphanum = true) : c.toNat < 128 := by
  have upTo {d : Char} (last : c.val ≤ d.val) (small : d.toNat < 128) : c.toNat < 128 :=
    Nat.lt_of_le_of_lt (UInt32.le_iff_toNat_le.mp last) small
  rcases Bool.or_eq_true_iff.mp letter with alpha | digit
  · rcases Bool.or_eq_true_iff.mp alpha with upper | lower
    · exact upTo (of_decide_eq_true upper).2 (by decide)
    · exact upTo (of_decide_eq_true (Bool.and_eq_true_iff.mp lower).2) (by decide)
  · exact upTo (of_decide_eq_true (Bool.and_eq_true_iff.mp digit).2) (by decide)

namespace Url

def isCredential (c : Char) : Bool :=
  ' ' ≤ c && c ≤ '~' && !(['/', '?', '#', '[', ']'].contains c)

def isHostChar (c : Char) : Bool := c.isAlphanum || c = '.' || c = '-' || c = '_'

theorem credentialAscii {c : Char} (credential : isCredential c = true) : c.toNat < 128 := by
  simp only [isCredential, Bool.and_eq_true, decide_eq_true_eq] at credential
  have last : c.val ≤ '~'.val := credential.1.2
  rw [UInt32.le_iff_toNat_le] at last
  exact Nat.lt_of_le_of_lt last (by decide)

theorem credentialShown {c : Char} (credential : isCredential c = true) : ' ' ≤ c := by
  simp only [isCredential, Bool.and_eq_true, decide_eq_true_eq] at credential
  exact credential.1.1

theorem hostAscii {c : Char} (host : isHostChar c = true) : c.toNat < 128 := by
  simp only [isHostChar, Bool.or_eq_true, decide_eq_true_eq] at host
  rcases host with ((letter | rfl) | rfl) | rfl
  · exact asciiAlphanum letter
  all_goals decide

theorem hostCredential {c : Char} (host : isHostChar c = true) : isCredential c = true :=
  asciiAll (P := fun c => isHostChar c = true → isCredential c = true) (by decide)
    (hostAscii host) host

theorem digitHost {c : Char} (digit : c.isDigit = true) : isHostChar c = true := by
  simp [isHostChar, Char.isAlphanum, digit]

theorem stripSame {text : Text} (first : ∀ c ∈ text.head?, ' ' < c)
    (shown : ∀ c ∈ text, ' ' ≤ c) : strip text = text := by
  have start : text.dropWhile (· ≤ ' ') = text := by
    cases text with
    | nil => rfl
    | cons c text =>
      have above : ¬ c ≤ ' ' := Char.not_le.mpr (first c rfl)
      exact List.dropWhile_cons_of_neg (by simpa using above)
  rw [strip, start]
  refine List.filter_eq_self.mpr fun c member => ?_
  have above := shown c member
  have other {d : Char} (low : ¬ ' ' ≤ d) : c ≠ d := fun same => low (same ▸ above)
  simp [other (d := '\t') (by decide), other (d := '\r') (by decide),
    other (d := '\n') (by decide)]

section authority

variable {authority : Text} (plain : ∀ c ∈ authority, isCredential c = true)
include plain

theorem withoutSeparator {c : Char} (separator : isCredential c = false) : c ∉ authority := by
  intro member
  rw [plain c member] at separator
  contradiction

theorem authorityBefore {tail : Text} (ends : ∀ c ∈ tail.head?, endsAuthority c = true) :
    authorityOf ('/' :: '/' :: (authority ++ tail)) = authority := by
  have goesOn : ∀ c ∈ authority, (!endsAuthority c) = true := fun c member => by
    have credential := plain c member
    have other {d : Char} (separator : isCredential d = false) : c ≠ d := by
      rintro rfl
      rw [credential] at separator
      contradiction
    simp [endsAuthority, other (d := '/') (by decide), other (d := '?') (by decide),
      other (d := '#') (by decide)]
  have stops : tail.takeWhile (fun c => !endsAuthority c) = [] := by
    cases tail with
    | nil => rfl
    | cons c tail => exact List.takeWhile_cons_of_neg (by simpa using ends c rfl)
  rw [authorityOf, List.takeWhile_append_of_pos goesOn, stops, List.append_nil]

theorem readPlain (scheme : Text) : checkBrackets ⟨scheme, authority⟩ = .ok () ∧
    checkDisguised ⟨scheme, authority⟩ = .ok () := by
  constructor
  · have opened : authority.contains '[' = false := by
      simpa using withoutSeparator plain (c := '[') (by decide)
    have closed : authority.contains ']' = false := by
      simpa using withoutSeparator plain (c := ']') (by decide)
    rw [checkBrackets, opened, closed]
    rfl
  · have shown : (authority.any fun c => disguised.contains c.toNat) = false := by
      refine List.any_eq_false.mpr fun c member => ?_
      have small := credentialAscii (plain c member)
      have large : ∀ n ∈ disguised, 128 ≤ n := by decide
      simpa using fun inside => absurd (large _ inside) (Nat.not_le.mpr small)
    rw [checkDisguised, shown]
    rfl

end authority

theorem schemeCut {spelling rest : Text} (filled : spelling ≠ [])
    (letters : ∀ c ∈ spelling, c.isAlpha = true) :
    Url.cutScheme (spelling ++ ':' :: rest) = (Text.lowerAscii spelling, rest) := by
  have noColon : ':' ∉ spelling := fun member => by simpa using letters _ member
  obtain ⟨c, others, rfl⟩ := List.exists_cons_of_ne_nil filled
  have chars : others.all isSchemeChar = true := List.all_eq_true.mpr fun d member => by
    simp [isSchemeChar, Char.isAlphanum, letters d (List.mem_cons_of_mem _ member)]
  rw [Url.cutScheme, Text.cutFirst noColon]
  simp only [letters c List.mem_cons_self, chars, Bool.and_self, if_true]

theorem portWritten {u : Url} {n : Nat} (rest : u.hostAndRest.2 = ':' :: Text.ofNat n)
    (last : n ≤ 65535) : u.port? = .ok (some n) := by
  have digits : Text.isDigits (Text.ofNat n) = true := by
    rw [Text.isDigits, Bool.and_eq_true, List.all_eq_true]
    exact ⟨by simp [Text.ofNat, Nat.toDigits_ne_nil], fun c digit =>
      Nat.isDigit_of_mem_toDigits (by decide) (by decide) digit⟩
  have short : (Text.ofNat n).length ≤ Number.digitLimit :=
    Nat.le_trans ((Nat.length_toDigits_le_iff (by decide) (by decide)).mpr
      (show n < 10 ^ 5 by omega)) (by decide)
  have value : Text.toNat (Text.ofNat n) = n := Nat.ofDigitChars_ten_toDigits
  obtain ⟨c, others, shape⟩ : ∃ c others, Text.ofNat n = c :: others :=
    List.exists_cons_of_ne_nil Nat.toDigits_ne_nil
  rw [shape] at rest digits short value
  have cut : afterColon (':' :: c :: others) = some (c :: others) := rfl
  rw [port?, rest]
  simp only [cut, digits, value, Nat.not_lt.mpr short, Nat.not_lt.mpr last, if_false,
    Bool.not_true, Bool.false_eq_true]

end Url

theorem alphaOfLower {c : Char} (small : c.toLower.isAlpha = true) : c.isAlpha = true := by
  cases upper : c.isUpper with
  | true => exact Bool.or_eq_true_iff.mpr (.inl upper)
  | false =>
    have same : c.toLower = c := dif_neg (of_decide_eq_false upper)
    rwa [same] at small

namespace Broker
open Url (isCredential isHostChar)

structure Address where
  scheme : Scheme
  spelling : Text
  credentials : Option (Text × Option Text)
  host : Text
  port : Option Nat
  path : Option Text

namespace Address

def userInfo (a : Address) : Text :=
  match a.credentials with
  | none => []
  | some (user, none) => user ++ "@"
  | some (user, some password) => user ++ ":" ++ password ++ "@"

def location (a : Address) : Text :=
  match a.port with
  | none => a.host
  | some n => a.host ++ ":" ++ Text.ofNat n

def tail (a : Address) : Text :=
  match a.path with
  | none => []
  | some path => "/" ++ path

def text (a : Address) : Text := a.spelling ++ "://" ++ a.userInfo ++ a.location ++ a.tail

structure Fit (a : Address) : Prop where
  spelling : Text.lowerAscii a.spelling = a.scheme.name
  user : ∀ given ∈ a.credentials, ∀ c ∈ given.1, isCredential c = true ∧ c ≠ ':'
  password : ∀ given ∈ a.credentials, ∀ password ∈ given.2, ∀ c ∈ password, isCredential c = true
  host : a.host ≠ [] ∧ ∀ c ∈ a.host, isHostChar c = true
  port : ∀ n ∈ a.port, 1 ≤ n ∧ n ≤ 65535
  path : ∀ path ∈ a.path, ∀ c ∈ path, c.isAlpha = true

variable {a : Address} (fit : a.Fit)
include fit

theorem Fit.letters : a.spelling ≠ [] ∧ ∀ c ∈ a.spelling, c.isAlpha = true := by
  have named : a.scheme.name ≠ [] ∧ ∀ c ∈ a.scheme.name, c.isAlpha = true := by
    cases a.scheme <;> exact ⟨by decide, eachChar (by decide)⟩
  rw [← fit.spelling] at named
  refine ⟨fun empty => named.1 (by rw [empty]; rfl), fun c member => ?_⟩
  exact alphaOfLower (named.2 _ (List.mem_map_of_mem member))

theorem Fit.locationChars : ∀ c ∈ a.location, isHostChar c = true ∨ c = ':' := by
  intro c member
  rw [location] at member
  cases known : a.port with
  | none =>
    rw [known] at member
    exact .inl (fit.host.2 c member)
  | some n =>
    simp only [known, List.mem_append] at member
    rcases member with (host | colon) | digit
    · exact .inl (fit.host.2 c host)
    · exact .inr (List.mem_singleton.mp colon)
    · exact .inl (Url.digitHost (Nat.isDigit_of_mem_toDigits (by decide) (by decide) digit))

theorem Fit.notInLocation {c : Char} (host : isHostChar c = false) (colon : c ≠ ':') :
    c ∉ a.location := by
  intro member
  rcases fit.locationChars c member with inside | same
  · rw [inside] at host
    contradiction
  · exact colon same

theorem Fit.authority : ∀ c ∈ a.userInfo ++ a.location, isCredential c = true := by
  intro c member
  rcases List.mem_append.mp member with user | location
  · rw [userInfo] at user
    have one {d : Char} (plain : isCredential d = true) (here : c ∈ [d]) : isCredential c = true :=
      List.mem_singleton.mp here ▸ plain
    split at user
    · exact absurd user List.not_mem_nil
    · rename_i name known
      rcases List.mem_append.mp user with inside | sign
      · exact (fit.user _ known c inside).1
      · exact one (by decide) sign
    · rename_i name password known
      simp only [List.mem_append] at user
      rcases user with ((inside | colon) | inside) | sign
      · exact (fit.user _ known c inside).1
      · exact one (by decide) colon
      · exact fit.password _ known _ rfl c inside
      · exact one (by decide) sign
  · rcases fit.locationChars c location with host | rfl
    · exact Url.hostCredential host
    · decide

theorem Fit.shown : (∀ c ∈ a.text.head?, ' ' < c) ∧ ∀ c ∈ a.text, ' ' ≤ c := by
  obtain ⟨filled, letters⟩ := fit.letters
  have above {c : Char} (letter : c.isAlpha = true) : ' ' < c ∧ ' ' ≤ c :=
    asciiAll (P := fun c => c.isAlpha = true → ' ' < c ∧ ' ' ≤ c) (by decide)
      (asciiAlphanum (by simp [Char.isAlphanum, letter])) letter
  constructor
  · obtain ⟨c, others, shape⟩ := List.exists_cons_of_ne_nil filled
    intro d first
    have same : c = d := by simpa [text, shape] using first
    exact same ▸ (above (letters c (by simp [shape]))).1
  · intro c member
    simp only [text, List.mem_append] at member
    rcases member with (((spelling | mark) | user) | location) | path
    · exact (above (letters c spelling)).2
    · exact eachChar (P := (' ' ≤ ·)) (by decide) c mark
    · exact Url.credentialShown (fit.authority c (List.mem_append_left _ user))
    · exact Url.credentialShown (fit.authority c (List.mem_append_right _ location))
    · rw [tail] at path
      split at path
      · exact absurd path List.not_mem_nil
      · rename_i letters known
        rcases List.mem_append.mp path with slash | letter
        · exact eachChar (P := (' ' ≤ ·)) (by decide) c slash
        · exact (above (fit.path _ known c letter)).2

theorem Fit.read : Url.read a.text = .ok ⟨a.scheme.name, a.userInfo ++ a.location⟩ := by
  obtain ⟨filled, letters⟩ := fit.letters
  have shape : a.text =
      a.spelling ++ ':' :: '/' :: '/' :: (a.userInfo ++ a.location ++ a.tail) := by
    simp [text]
  have ends : ∀ c ∈ a.tail.head?, Url.endsAuthority c = true := by
    intro c first
    rw [tail] at first
    split at first
    · contradiction
    · cases first
      rfl
  obtain ⟨brackets, disguised⟩ := Url.readPlain fit.authority a.scheme.name
  obtain ⟨first, shown⟩ := fit.shown
  rw [Url.read, Url.stripSame first shown, shape, Url.schemeCut filled letters, fit.spelling]
  simp only [Url.authorityBefore fit.authority ends, brackets, disguised, bind, Except.bind]

theorem Fit.split (scheme : Text) :
    let u : Url := ⟨scheme, a.userInfo ++ a.location⟩
    u.user = a.credentials.map Prod.fst ∧ u.password = a.credentials.bind Prod.snd ∧
      u.hostInfo = a.location := by
  intro u
  have clean : '@' ∉ a.location := fit.notInLocation (by decide) (by decide)
  have given {info : Text} (written : a.userInfo = info ++ "@") :
      u.userInfo = some info ∧ u.hostInfo = a.location := by
    have authority : u.authority = info ++ '@' :: a.location := by simp [u, written]
    rw [Url.userInfo, Url.hostInfo, authority, Text.cutLastOne info clean]
    exact ⟨rfl, rfl⟩
  cases known : a.credentials with
  | none =>
    have authority : u.authority = a.location := by simp [u, userInfo, known]
    have missing : u.userInfo = none ∧ u.hostInfo = a.location := by
      rw [Url.userInfo, Url.hostInfo, authority, Text.cutLastNowhere clean]
      exact ⟨rfl, rfl⟩
    rw [Url.user, Url.password, missing.1, missing.2]
    exact ⟨rfl, rfl, rfl⟩
  | some credentials =>
    obtain ⟨name, password⟩ := credentials
    have noColon : ':' ∉ name := fun member => (fit.user _ known _ member).2 rfl
    cases password with
    | none =>
      obtain ⟨info, host⟩ := @given name (by rw [userInfo, known])
      rw [Url.user, Url.password, info, host, Option.map_some, Option.bind_some, Url.beforeColon,
        Url.afterColon, Text.cutNowhere noColon]
      exact ⟨rfl, rfl, rfl⟩
    | some password =>
      obtain ⟨info, host⟩ := @given (name ++ ':' :: password) (by simp [userInfo, known])
      rw [Url.user, Url.password, info, host, Option.map_some, Option.bind_some, Url.beforeColon,
        Url.afterColon, Text.cutFirst noColon]
      exact ⟨rfl, rfl, rfl⟩

theorem Fit.located {u : Url} (info : u.hostInfo = a.location) :
    u.host? = some (Text.lowerAscii a.host) ∧ u.port? = .ok a.port := by
  have outside {c : Char} (other : isHostChar c = false) : c ∉ a.host := fun member => by
    rw [fit.host.2 c member] at other
    contradiction
  have noBracket : '[' ∉ a.location := fit.notInLocation (by decide) (by decide)
  have parts : u.hostAndRest =
      (a.host, match a.port with | none => [] | some n => ':' :: Text.ofNat n) := by
    rw [Url.hostAndRest, info, Text.cutNowhere noBracket, location]
    cases a.port with
    | none => simp only [Text.cutNowhere (outside (c := ':') (by decide))]
    | some n =>
      have shape : a.host ++ ":" ++ Text.ofNat n = a.host ++ ':' :: Text.ofNat n := by simp
      simp only [shape, Text.cutFirst (outside (c := ':') (by decide))]
  constructor
  · obtain ⟨c, others, shape⟩ := List.exists_cons_of_ne_nil fit.host.1
    have small : Text.lower a.host = Text.lowerAscii a.host :=
      Text.lowerOfAscii fun c member => Url.hostAscii (fit.host.2 c member)
    have whole := Text.cutNowhere (outside (c := '%') (by decide))
    rw [shape] at small whole
    rw [Url.host?, parts, shape]
    simp only [whole, small]
  · cases known : a.port with
    | none =>
      rw [Url.port?, parts, known]
      rfl
    | some n => exact Url.portWritten (by rw [parts, known]) (fit.port n known).2

end Address

/-- Whatever a URL is written of, in whichever letter case its scheme is and whichever signs its
user and its password have: the settings that are read from it are the parts of it. The host is in
small letters, and a port that is left out is the usual one of the scheme. -/
theorem Settings.settingsReadBack {a : Address} (fit : a.Fit) :
    Settings.read (.text a.text) = .ok
      { host := Text.lowerAscii a.host
        port := a.port.getD (if a.scheme = .mqtts ∨ a.scheme = .ssl then 8883 else 1883)
        user := a.credentials.map Prod.fst
        password := a.credentials.bind Prod.snd
        secure := decide (a.scheme = .mqtts ∨ a.scheme = .ssl) } := by
  obtain ⟨user, password, info⟩ := fit.split a.scheme.name
  obtain ⟨host, port⟩ := fit.located info
  have known : Scheme.ofName? a.scheme.name = some a.scheme := by
    cases a.scheme <;> rfl
  have usual : a.scheme.defaultPort =
      if a.scheme = .mqtts ∨ a.scheme = .ssl then 8883 else 1883 := by
    cases a.scheme <;> rfl
  have secure : a.scheme.isSecure = decide (a.scheme = .mqtts ∨ a.scheme = .ssl) := by
    cases a.scheme <;> rfl
  have parts : Url.ofValue (.text a.text) =
      .ok (⟨a.scheme.name, a.userInfo ++ a.location⟩, .text a.scheme.name) := by
    rw [Url.ofValue, fit.read]
    rfl
  have whole : Settings.read (.text a.text) =
      (ofScheme a.scheme ⟨a.scheme.name, a.userInfo ++ a.location⟩).mapError .value := by
    rw [read, parts]
    simp only [bind, Except.bind, known]
  rw [whole, ofScheme, port]
  simp only [bind, Except.bind, host, user, password, Option.getD_some, usual, secure]
  cases given : a.port with
  | none => rfl
  | some n =>
    cases n with
    | zero => exact absurd (fit.port 0 given).1 (by decide)
    | succ n => rfl

theorem Settings.settingsReadBackSigns :
    let a : Address :=
      { scheme := .mqtts, spelling := "mQTTs", credentials := some ("a@b c", some ":p@:w%"),
        host := "Broker-1.example_ORG", port := some 65535, path := some "Topics" }
    a.Fit ∧ a.text = "mQTTs://a@b c::p@:w%@Broker-1.example_ORG:65535/Topics".toList ∧
      Settings.read (.text a.text) =
        .ok ⟨"broker-1.example_org", 65535, some "a@b c", some ":p@:w%", true⟩ := by
  intro a
  have fit : a.Fit :=
    { spelling := by decide
      user := by rintro _ ⟨⟩; exact eachChar (by decide)
      password := by rintro _ ⟨⟩ _ ⟨⟩; exact eachChar (by decide)
      host := ⟨by decide, eachChar (by decide)⟩
      port := by rintro _ ⟨⟩; decide
      path := by rintro _ ⟨⟩; exact eachChar (by decide) }
  exact ⟨fit, by decide, settingsReadBack fit⟩

end Broker
end TopicRouting
