import WolfEngine.Stream.Common.Tls

/-! # Building the TLS acceptor

Both `ensure!`s ask for an empty list, so nothing valid gets past them and what
gets past both has no key to remove.
-/

namespace WolfEngine.Verified

open WolfEngine.Stream

section Acceptor

variable {File ServerConfig : Type} (env : TlsEnv File ServerConfig)
  (certificatePath privateKeyPath : Option Path) (privateType : Option TlsPrivateKeyType)

/-- The three parameters are given and both files parse. -/
def TlsLoads (certs : List Certificate) (keys : List PrivateKey) : Prop :=
  ∃ crt key type_, certificatePath = some crt ∧ privateKeyPath = some key ∧
    privateType = some type_ ∧ Tls.loadCerts env crt = .ok certs ∧
    Tls.loadPrivateKeys env key type_ = .ok keys

/-- What an acceptor needs: both lists are non-empty and the first key fits. -/
def TlsValid : Prop :=
  ∃ certs key keys config, TlsLoads env certificatePath privateKeyPath privateType certs (key :: keys) ∧
    certs ≠ [] ∧ env.withSingleCert certs key = .ok config

/-- `Ok` exactly for what is valid, and an error, never a panic, for everything else. -/
def AcceptsExactly (result : Status (Except Error (Tls ServerConfig))) : Prop :=
  ((∃ tls, result = .returned (.ok tls)) ↔ TlsValid env certificatePath privateKeyPath privateType) ∧
  (¬TlsValid env certificatePath privateKeyPath privateType → ∃ e, result = .returned (.error e))

theorem given_eq_ok {α : Type} {option : Option α} {text : String} {value : α} :
    Tls.given option text = .ok value ↔ option = some value := by
  cases option <;> simp [Tls.given]

theorem ensure_eq_ok {condition : Bool} {text : String} {done : Unit} :
    Tls.ensure condition text = .ok done ↔ condition = true := by
  cases condition <;> simp [Tls.ensure]

theorem bind_eq_ok {α β : Type} {action : Except Error α} {next : α → Except Error β} {result : β} :
    action >>= next = .ok result ↔ ∃ value, action = .ok value ∧ next value = .ok result := by
  cases action <;> simp [bind, Except.bind]

variable {env certificatePath privateKeyPath privateType} in
/-- Only two empty lists get past the `ensure!`s. -/
theorem loaded_eq_ok {certs : List Certificate} {keys : List PrivateKey} :
    Tls.loaded env certificatePath privateKeyPath privateType = .ok (certs, keys) ↔
      certs = [] ∧ keys = [] ∧ TlsLoads env certificatePath privateKeyPath privateType [] [] := by
  simp only [Tls.loaded, bind_eq_ok, given_eq_ok, ensure_eq_ok, List.isEmpty_iff]
  constructor
  · rintro ⟨crt, here, certs, read, ⟨⟩, rfl, key, there, type_, kind, keys, parsed, ⟨⟩, rfl, ⟨⟩⟩
    exact ⟨rfl, rfl, crt, key, type_, here, there, kind, read, parsed⟩
  · rintro ⟨rfl, rfl, crt, key, type_, here, there, kind, read, parsed⟩
    exact ⟨crt, here, [], read, (), rfl, key, there, type_, kind, [], parsed, (), rfl, rfl⟩

/-- Every call is rejected, or panics on two empty lists. -/
theorem new_cases :
    (TlsLoads env certificatePath privateKeyPath privateType [] [] ∧
      Tls.new env certificatePath privateKeyPath privateType = .panicked) ∨
    (¬TlsLoads env certificatePath privateKeyPath privateType [] [] ∧
      ∃ e, Tls.new env certificatePath privateKeyPath privateType = .returned (.error e)) := by
  unfold Tls.new
  cases ran : Tls.loaded env certificatePath privateKeyPath privateType with
  | error e =>
    refine .inr ⟨fun empty => ?_, e, rfl⟩
    have passed := loaded_eq_ok.mpr ⟨rfl, rfl, empty⟩
    rw [ran] at passed
    cases passed
  | ok lists =>
    obtain ⟨certs, keys⟩ := lists
    obtain ⟨rfl, rfl, empty⟩ := loaded_eq_ok.mp ran
    exact .inl ⟨empty, rfl⟩

end Acceptor

/-- `Tls::new` does what it should only where an error is due, and not on files
without certificates and keys. -/
theorem tls_new_accepts_exactly_iff {File ServerConfig : Type} (env : TlsEnv File ServerConfig)
    (certificatePath privateKeyPath : Option Path) (privateType : Option TlsPrivateKeyType) :
    AcceptsExactly env certificatePath privateKeyPath privateType
        (Tls.new env certificatePath privateKeyPath privateType) ↔
      ¬TlsValid env certificatePath privateKeyPath privateType ∧
        ¬TlsLoads env certificatePath privateKeyPath privateType [] [] := by
  have valid_not_empty : TlsValid env certificatePath privateKeyPath privateType →
      ¬TlsLoads env certificatePath privateKeyPath privateType [] [] := by
    rintro ⟨certs, key, keys, config, ⟨crt, _, _, here, _, _, read, _⟩, nonempty, _⟩
      ⟨crt', _, _, here', _, _, read', _⟩
    rw [here] at here'
    cases here'
    rw [read] at read'
    cases read'
    exact nonempty rfl
  unfold AcceptsExactly
  rcases new_cases env certificatePath privateKeyPath privateType with
    ⟨empty, panics⟩ | ⟨loads, e, rejects⟩
  · rw [panics]
    constructor
    · rintro ⟨_, rejected⟩
      obtain ⟨e, panicked⟩ := rejected fun valid => valid_not_empty valid empty
      cases panicked
    · rintro ⟨_, loads⟩
      exact absurd empty loads
  · rw [rejects]
    constructor
    · rintro ⟨accepted, _⟩
      refine ⟨fun valid => ?_, loads⟩
      obtain ⟨tls, returned⟩ := accepted.mpr valid
      cases returned
    · rintro ⟨invalid, _⟩
      refine ⟨⟨?_, fun valid => absurd valid invalid⟩, fun _ => ⟨e, rfl⟩⟩
      rintro ⟨tls, returned⟩
      cases returned

/-- Files with the given certificates and keys, and a builder that takes them. -/
def tlsFiles (certs keys : List (List UInt8)) : TlsEnv Unit Unit where
  openFile := fun _ => .ok ()
  certs := fun _ => .ok certs
  pkcs8PrivateKeys := fun _ => .ok keys
  rsaPrivateKeys := fun _ => .ok keys
  withSingleCert := fun _ _ => .ok ()

/-- A valid certificate and key are rejected; files without either panic. -/
theorem valid_files_rejected :
    (TlsValid (tlsFiles [[1]] [[2]]) (some ⟨"crt"⟩) (some ⟨"key"⟩) (some .rsa) ∧
      Tls.new (tlsFiles [[1]] [[2]]) (some ⟨"crt"⟩) (some ⟨"key"⟩) (some .rsa) =
        .returned (.error ⟨"missing certificate for TLS tcp server"⟩)) ∧
    Tls.new (tlsFiles [] []) (some ⟨"crt"⟩) (some ⟨"key"⟩) (some .rsa) = .panicked := by
  refine ⟨⟨⟨[⟨[1]⟩], ⟨[2]⟩, [], (), ⟨⟨"crt"⟩, ⟨"key"⟩, .rsa, rfl, rfl, rfl, rfl, rfl⟩, ?_, rfl⟩, rfl⟩, rfl⟩
  exact List.cons_ne_nil _ _

end WolfEngine.Verified
