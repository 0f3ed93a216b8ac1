import LevelStore.Proofs.Engine.Creation
import LevelStore.Proofs.Text.Lower

/-! How connections are secured. Main statement: an engine of PostgreSQL has the arguments that the
variables ask for, and any other engine has none, whatever else its URL says. -/

namespace LevelStore

namespace Settings

theorem nonempty_eq_some_iff {value : Option String} {text : String} :
    nonempty value = some text ↔ value = some text ∧ text ≠ "" := by
  rw [nonempty, Option.filter_eq_some_iff]
  simp

theorem nonempty_eq_none_iff {value : Option String} :
    nonempty value = none ↔ ∀ text, value = some text → text = "" := by
  rw [nonempty, Option.filter_eq_none_iff]
  simp

theorem ssl_iff (env : Environment) : (ofEnvironment env).ssl = true ↔
    ∃ text, env.get? "DB_SSL" = some text ∧ Text.lower text = "true" := by
  simp only [ofEnvironment, Option.any_eq_true, isTrue_iff]

theorem tls_ok (s : Settings) {text : String} {u : Url} (read : Url.parse text = .ok u) :
    s.tls text =
      .ok (if s.ssl = true ∧ u.backend = "postgresql" then s.caCert.elim .required .verified
        else .off) := by
  unfold tls
  rw [read]
  by_cases asked : s.ssl = true
  · by_cases server : u.backend = "postgresql"
    · cases cert : s.caCert <;> simp [asked, server]
    · simp [asked, server]
  · simp [asked]

end Settings

namespace Engine

theorem create_tls {s : Settings} {url : Option String} {t : FileTree} {e : Engine}
    (made : (create s url t).1 = .ok e) :
    e.tls =
      if s.ssl = true ∧ e.url.backend = "postgresql" then s.caCert.elim .required .verified
      else .off := by
  obtain ⟨u, working, read, prepared⟩ := create_ok t made
  obtain ⟨own, secured⟩ := prepare_ok prepared
  have backend : e.url.backend = u.backend := by rw [own]; rfl
  rw [s.tls_ok read] at secured
  rw [backend]
  exact (Except.ok.inj secured).symm

/-- The arguments name a mode exactly if the variable says so and the engine is one of PostgreSQL.
The mode is that of a certificate if one is configured. -/
theorem create_secures {env : Environment} {url : Option String} {t : FileTree} {e : Engine}
    (made : (create (.ofEnvironment env) url t).1 = .ok e) :
    let secured := (∃ text, env.get? "DB_SSL" = some text ∧ Text.lower text = "true") ∧
      e.url.backend = "postgresql"
    let arguments := e.tls.arguments
    ((∃ mode, ("sslmode", mode) ∈ arguments) ↔ secured) ∧
    (secured → ∀ cert, env.get? "DB_CA_CERT" = some cert → cert ≠ "" →
      arguments = [("sslmode", "verify-ca"), ("sslrootcert", cert)]) ∧
    (secured → (∀ cert, env.get? "DB_CA_CERT" = some cert → cert = "") →
      arguments = [("sslmode", "require")]) ∧
    (¬secured → arguments = []) := by
  intro secured arguments
  have tls := create_tls made
  have asked : (Settings.ofEnvironment env).ssl = true ∧ e.url.backend = "postgresql" ↔
      secured :=
    and_congr_left' (Settings.ssl_iff env)
  have off (not : ¬secured) : arguments = [] := by
    rw [if_neg (mt asked.1 not)] at tls
    simp [arguments, tls, Tls.arguments]
  have certified (holds : secured) (cert : String) (given : env.get? "DB_CA_CERT" = some cert)
      (named : cert ≠ "") : arguments = [("sslmode", "verify-ca"), ("sslrootcert", cert)] := by
    have configured : (Settings.ofEnvironment env).caCert = some cert :=
      Settings.nonempty_eq_some_iff.2 ⟨given, named⟩
    rw [if_pos (asked.2 holds), configured] at tls
    simp [arguments, tls, Tls.arguments]
  have uncertified (holds : secured)
    (unnamed : ∀ cert, env.get? "DB_CA_CERT" = some cert → cert = "") :
      arguments = [("sslmode", "require")] := by
    have unset : (Settings.ofEnvironment env).caCert = none :=
      Settings.nonempty_eq_none_iff.2 unnamed
    rw [if_pos (asked.2 holds), unset] at tls
    simp [arguments, tls, Tls.arguments]
  refine ⟨⟨fun ⟨mode, member⟩ => ?_, fun holds => ?_⟩, certified, uncertified, off⟩
  · refine Classical.byContradiction fun not => ?_
    simp [off not] at member
  · cases configured : (Settings.ofEnvironment env).caCert with
    | none =>
      exact ⟨"require",
        by simp [uncertified holds (Settings.nonempty_eq_none_iff.1 configured)]⟩
    | some cert =>
      obtain ⟨given, named⟩ := Settings.nonempty_eq_some_iff.1 configured
      exact ⟨"verify-ca", by simp [certified holds cert given named]⟩

/-- What the query says of the mode does not count, and a file has none in spite of the
variables. -/
theorem create_secures_beside_query :
    let env : Environment := [("DB_SSL", "tRuE"), ("DB_CA_CERT", "/etc/ca.pem")]
    let server :=
      create (.ofEnvironment env) (some "postgresql+psycopg2://u@h/db?sslmode=disable") {}
    let file := create (.ofEnvironment env) (some "sqlite:///x.db?sslmode=require") {}
    (∃ e, server.1 = .ok e ∧ e.url.backend = "postgresql" ∧
      e.tls.arguments = [("sslmode", "verify-ca"), ("sslrootcert", "/etc/ca.pem")]) ∧
    (∃ e, file.1 = .ok e ∧ e.url.backend ≠ "postgresql" ∧ e.tls.arguments = []) := by
  intro env server file
  have asked : ∃ text, env.get? "DB_SSL" = some text ∧ Text.lower text = "true" :=
    ⟨"tRuE", rfl, by decide +kernel⟩
  have backend : server.1.toOption.map (·.url.backend) = some "postgresql" := by decide +kernel
  have backend' : file.1.toOption.map (·.url.backend) = some "sqlite" := by decide +kernel
  constructor
  · cases made : server.1 with
    | error cause => simp [made, Except.toOption] at backend
    | ok e =>
      have own : e.url.backend = "postgresql" := by simpa [made, Except.toOption] using backend
      obtain ⟨-, certified, -, -⟩ := create_secures made
      exact ⟨e, rfl, own, certified ⟨asked, own⟩ _ rfl (by decide)⟩
  · cases made : file.1 with
    | error cause => simp [made, Except.toOption] at backend'
    | ok e =>
      have own : e.url.backend = "sqlite" := by simpa [made, Except.toOption] using backend'
      have other : e.url.backend ≠ "postgresql" := by simp [own]
      obtain ⟨-, -, -, off⟩ := create_secures made
      exact ⟨e, rfl, other, off fun holds => other holds.2⟩

end Engine
end LevelStore
