import Mathlib.Data.List.Induction
import Mathlib.Tactic.Lemma
import StorageConsole.Config.VariablesFile

namespace StorageConsole

namespace Variables

variable (vars more : Variables) (name : String)

def told (env file : Variables) (name : String) : Option String :=
  (env.get? name).or (file.get? name)

lemma get?_cons (key value : String) :
    get? ((key, value) :: more) name = if key = name then some value else more.get? name := by
  by_cases h : key = name <;> simp [get?, h]

lemma get?_append : get? (vars ++ more) name = (vars.get? name).or (more.get? name) := by
  simp [get?, List.find?_append, Option.map_or]

lemma get?_setDefault (key value : String) :
    (vars.setDefault key value).get? name =
      (vars.get? name).or (if key = name then some value else none) := by
  unfold setDefault
  split
  · rename_i hset
    by_cases hname : key = name
    · obtain ⟨v, hv⟩ := Option.isSome_iff_exists.mp hset
      rw [← hname, hv]
      rfl
    · simp [hname]
  · rw [get?_append, get?_cons]
    rfl

lemma get?_setDefaults : (vars.setDefaults more).get? name = told vars more name := by
  induction more generalizing vars with
  | nil => simp [setDefaults, told, get?]
  | cons pair more ih =>
    obtain ⟨key, value⟩ := pair
    have hcons : vars.setDefaults ((key, value) :: more) =
        (vars.setDefault key value).setDefaults more := rfl
    rw [hcons, ih, told, told, get?_setDefault, get?_cons, Option.or_assoc]
    congr 1
    split <;> rfl

end Variables

namespace Config

inductive Digits : List Char → Nat → Prop
  | digit {d : Nat} : d < 10 → Digits [Nat.digitChar d] d
  | more {cs : List Char} {n d : Nat} : Digits cs n → d < 10 →
      Digits (cs ++ [Nat.digitChar d]) (10 * n + d)

def Reads (text : String) (n : Nat) : Prop :=
  (Digits text.toList n ∨ ∃ digits, text.toList = '+' :: digits ∧ Digits digits n) ∧ n < UInt64.size

def valueOf (cs : List Char) : Nat := cs.foldl (fun n c => n * 10 + (c.toNat - 48)) 0

lemma digitChar_isDigit : ∀ d < 10, (Nat.digitChar d).isDigit = true ∧
    (Nat.digitChar d).toNat - 48 = d := by decide

lemma digitChar_of_isDigit {c : Char} (h : c.isDigit = true) :
    c.toNat - 48 < 10 ∧ Nat.digitChar (c.toNat - 48) = c := by
  have hbounds : 48 ≤ c.toNat ∧ c.toNat ≤ 57 := by
    simpa [Char.isDigit, UInt32.le_iff_toNat_le] using h
  have hlt : c.toNat - 48 < 10 := by omega
  refine ⟨hlt, Char.toNat_inj.mp ?_⟩
  rw [Nat.toNat_digitChar_of_lt_ten hlt]
  omega

lemma digits_iff (cs : List Char) (n : Nat) :
    Digits cs n ↔ cs ≠ [] ∧ cs.all Char.isDigit = true ∧ valueOf cs = n := by
  constructor
  · intro h
    induction h with
    | digit hd =>
      obtain ⟨hdigit, hvalue⟩ := digitChar_isDigit _ hd
      simp [valueOf, hdigit, hvalue]
    | @more cs n d _ hd ih =>
      obtain ⟨-, hall, rfl⟩ := ih
      obtain ⟨hdigit, hvalue⟩ := digitChar_isDigit d hd
      refine ⟨by simp, by simp [hall, hdigit], ?_⟩
      simp [valueOf, hvalue, Nat.mul_comm]
  · rintro ⟨hne, hall, rfl⟩
    induction cs using List.reverseRecOn with
    | nil => exact absurd rfl hne
    | append_singleton cs c ih =>
      simp only [List.all_append, List.all_cons, List.all_nil, Bool.and_true,
        Bool.and_eq_true] at hall
      obtain ⟨hc, hchar⟩ := digitChar_of_isDigit hall.2
      have hvalue : valueOf (cs ++ [c]) = 10 * valueOf cs + (c.toNat - 48) := by
        simp [valueOf, Nat.mul_comm]
      rw [hvalue]
      by_cases hcs : cs = []
      · subst hcs
        simpa [valueOf, hchar] using Digits.digit hc
      · simpa only [hchar] using (ih hcs hall.1).more hc

lemma not_digits_plus (cs : List Char) (n : Nat) : ¬Digits ('+' :: cs) n := by
  rw [digits_iff]
  rintro ⟨-, hall, -⟩
  simp at hall

lemma digits_read_iff (cs : List Char) (n : Nat) :
    (if cs.isEmpty || !cs.all Char.isDigit then none
      else if valueOf cs < Nat.pow 2 64 then some (valueOf cs) else none) = some n ↔
      Digits cs n ∧ n < UInt64.size := by
  have hsize : UInt64.size = Nat.pow 2 64 := rfl
  rw [digits_iff, hsize]
  by_cases hdigits : cs ≠ [] ∧ cs.all Char.isDigit = true
  · obtain ⟨hne, hall⟩ := hdigits
    rw [if_neg (by simp [hne, hall]), Option.ite_none_right_eq_some]
    constructor
    · rintro ⟨hlt, hn⟩
      obtain rfl := Option.some.inj hn
      exact ⟨⟨hne, hall, rfl⟩, hlt⟩
    · rintro ⟨⟨-, -, rfl⟩, hlt⟩
      exact ⟨hlt, rfl⟩
  · have hempty : (cs.isEmpty || !cs.all Char.isDigit) = true := by
      simpa [imp_iff_not_or, and_comm] using hdigits
    rw [if_pos hempty]
    exact ⟨fun h => (nomatch h), fun ⟨⟨hne, hall, _⟩, _⟩ => absurd ⟨hne, hall⟩ hdigits⟩

def unsigned : List Char → List Char
  | '+' :: cs => cs
  | cs => cs

lemma digits_unsigned_iff (cs : List Char) (n : Nat) :
    Digits (unsigned cs) n ↔ Digits cs n ∨ ∃ digits, cs = '+' :: digits ∧ Digits digits n := by
  unfold unsigned
  split
  · simp [not_digits_plus]
  · rename_i hplus
    constructor
    · exact .inl
    · rintro (h | ⟨digits, rfl, -⟩)
      · exact h
      · exact absurd rfl (hplus digits)

lemma number?_eq_some_iff (text : String) (n : Nat) : number? text = some n ↔ Reads text n := by
  rw [Reads, ← digits_unsigned_iff]
  exact digits_read_iff (unsigned text.toList) n

def Offends (told : String → Option String) (key value : String) : Prop :=
  told key = some value ∧ ∀ n, ¬Reads value n

lemma numberIn_ok_iff (vars : Variables) (key : String) (number : Option Nat) :
    numberIn vars key = .ok number ↔ Option.Rel Reads (vars.get? key) number := by
  unfold numberIn
  cases vars.get? key with
  | none => cases number <;> simp
  | some value =>
    have hreads (n : Nat) := number?_eq_some_iff value n
    cases hnumber : number? value <;> cases number <;> simp_all

lemma numberIn_error_iff (vars : Variables) (key : String) (fault : Fault) :
    numberIn vars key = .error fault ↔
      ∃ value, Offends vars.get? key value ∧ fault = .invalidConfig key value := by
  unfold numberIn Offends
  cases vars.get? key with
  | none => simp
  | some value =>
    cases hnumber : number? value with
    | none =>
      have hno (n : Nat) : ¬Reads value n := by
        rw [← number?_eq_some_iff, hnumber]
        exact fun h => nomatch h
      simp only [hnumber]
      constructor
      · rintro ⟨⟩
        exact ⟨value, ⟨rfl, hno⟩, rfl⟩
      · rintro ⟨_, ⟨hvalue, -⟩, rfl⟩
        rw [Option.some.inj hvalue]
    | some n =>
      simp only [hnumber]
      constructor
      · exact fun h => nomatch h
      · rintro ⟨_, ⟨hvalue, hno⟩, -⟩
        obtain rfl := Option.some.inj hvalue
        exact absurd ((number?_eq_some_iff value n).mp hnumber) (hno n)

def configured (told : String → Option String) (seconds milliseconds : Option Nat) : Config where
  origin := (told "DEDUPS3_CONSOLE_ORIGIN").getD "http://127.0.0.1:3002"
  basePath := (told "DEDUPS3_CONSOLE_BASE_PATH").getD "/api"
  timeout := seconds.map (· * 1000)
  logoutTimeout := milliseconds.getD 2000
  downloadDir := told "DEDUPS3_CONSOLE_DOWNLOAD_DIR"

lemma ofVariables_eq (vars : Variables) : ofVariables vars =
    (numberIn vars timeoutKey).bind fun seconds =>
      (numberIn vars logoutTimeoutKey).bind fun milliseconds =>
        .ok (configured vars.get? seconds milliseconds) := by
  simp only [ofVariables, configured, Option.or_none]
  rfl

lemma ofVariables_error_iff (vars : Variables) (fault : Fault) :
    ofVariables vars = .error fault ↔
      (∃ value, Offends vars.get? timeoutKey value ∧ fault = .invalidConfig timeoutKey value) ∨
      (¬∃ value, Offends vars.get? timeoutKey value) ∧
        ∃ value, Offends vars.get? logoutTimeoutKey value ∧
          fault = .invalidConfig logoutTimeoutKey value := by
  rw [ofVariables_eq, ← numberIn_error_iff, ← numberIn_error_iff]
  cases hseconds : numberIn vars timeoutKey with
  | error e =>
    obtain ⟨value, hvalue, -⟩ := (numberIn_error_iff vars timeoutKey e).mp hseconds
    have hoffends : ∃ value, Offends vars.get? timeoutKey value := ⟨value, hvalue⟩
    simp [Except.bind, hoffends]
  | ok seconds =>
    have hnone : ¬∃ value, Offends vars.get? timeoutKey value := by
      rintro ⟨value, hvalue⟩
      have herror := (numberIn_error_iff vars timeoutKey _).mpr ⟨value, hvalue, rfl⟩
      rw [hseconds] at herror
      cases herror
    cases numberIn vars logoutTimeoutKey <;> simp [Except.bind, hnone]

lemma ofVariables_ok_iff (vars : Variables) (c : Config) :
    ofVariables vars = .ok c ↔ ∃ seconds milliseconds,
      Option.Rel Reads (vars.get? timeoutKey) seconds ∧
      Option.Rel Reads (vars.get? logoutTimeoutKey) milliseconds ∧
      c = configured vars.get? seconds milliseconds := by
  simp only [ofVariables_eq, ← numberIn_ok_iff]
  cases numberIn vars timeoutKey with
  | error e => simp [Except.bind]
  | ok seconds =>
    cases numberIn vars logoutTimeoutKey with
    | error e => simp [Except.bind]
    | ok milliseconds => simp [Except.bind, eq_comm]

def names : List String :=
  ["DEDUPS3_CONSOLE_ORIGIN", "DEDUPS3_CONSOLE_BASE_PATH", "DEDUPS3_CONSOLE_TIMEOUT",
    "DEDUPS3_CONSOLE_LOGOUT_TIMEOUT_MS", "DEDUPS3_CONSOLE_DOWNLOAD_DIR"]

lemma ofVariables_congr {vars vars' : Variables}
    (h : ∀ name ∈ names, vars.get? name = vars'.get? name) :
    ofVariables vars = ofVariables vars' := by
  simp only [names, List.forall_mem_cons] at h
  obtain ⟨horigin, hbase, htimeout, hlogout, hdir, -⟩ := h
  simp only [ofVariables_eq, numberIn, configured, timeoutKey, logoutTimeoutKey, horigin, hbase,
    htimeout, hlogout, hdir]

/-- A configuration is refused for the first timeout that is set and no number, and has otherwise
the defaults apart from what is set; the environment counts before the file, the file by its first
values, and no other name counts at all. -/
theorem environment_configures (env file : Variables) :
    let told := Variables.told env file
    let configuration := ofVariables (env.setDefaults file)
    (∀ fault, configuration = .error fault ↔
      (∃ value, Offends told "DEDUPS3_CONSOLE_TIMEOUT" value ∧
        fault = .invalidConfig "DEDUPS3_CONSOLE_TIMEOUT" value) ∨
      (¬∃ value, Offends told "DEDUPS3_CONSOLE_TIMEOUT" value) ∧
        ∃ value, Offends told "DEDUPS3_CONSOLE_LOGOUT_TIMEOUT_MS" value ∧
          fault = .invalidConfig "DEDUPS3_CONSOLE_LOGOUT_TIMEOUT_MS" value) ∧
    (∀ c, configuration = .ok c ↔ ∃ seconds milliseconds,
      Option.Rel Reads (told "DEDUPS3_CONSOLE_TIMEOUT") seconds ∧
      Option.Rel Reads (told "DEDUPS3_CONSOLE_LOGOUT_TIMEOUT_MS") milliseconds ∧
      c = {
        origin := (told "DEDUPS3_CONSOLE_ORIGIN").getD "http://127.0.0.1:3002"
        basePath := (told "DEDUPS3_CONSOLE_BASE_PATH").getD "/api"
        timeout := seconds.map (· * 1000)
        connectTimeout := 10000
        logoutTimeout := milliseconds.getD 2000
        credentials := .include
        defaultHeaders := []
        downloadDir := told "DEDUPS3_CONSOLE_DOWNLOAD_DIR" }) ∧
    ∀ env' file', (∀ name ∈ names, Variables.told env' file' name = told name) →
      ofVariables (env'.setDefaults file') = configuration := by
  intro told configuration
  have htold (env file : Variables) : (env.setDefaults file).get? = Variables.told env file :=
    funext fun name => Variables.get?_setDefaults env file name
  refine ⟨fun fault => ?refused, fun c => ?made, fun env' file' hsame => ?others⟩
  case refused =>
    have hrefused := ofVariables_error_iff (env.setDefaults file) fault
    rwa [htold] at hrefused
  case made =>
    have hmade := ofVariables_ok_iff (env.setDefaults file) c
    rwa [htold] at hmade
  case others =>
    apply ofVariables_congr
    rwa [htold, htold]

def sampleEnv : Variables := [("DEDUPS3_CONSOLE_TIMEOUT", "+015")]

def sampleFile : Variables :=
  [("DEDUPS3_CONSOLE_TIMEOUT", "soon"), ("DEDUPS3_CONSOLE_LOGOUT_TIMEOUT_MS", "750")]

theorem environment_before_file :
    VariablesFile.read sampleEnv ("DEDUPS3_CONSOLE_TIMEOUT=soon\n" ++
      "DEDUPS3_CONSOLE_LOGOUT_TIMEOUT_MS=750\n= 1\nDEDUPS3_CONSOLE_BASE_PATH=/x") = sampleFile ∧
    (∀ name ∈ names, Variables.told (sampleEnv ++ [("LANG", "C")]) sampleFile name =
      Variables.told sampleEnv sampleFile name) ∧
    ofVariables ((sampleEnv ++ [("LANG", "C")]).setDefaults sampleFile) =
      .ok { timeout := some 15000, logoutTimeout := 750 } := by
  have hread : VariablesFile.read sampleEnv ("DEDUPS3_CONSOLE_TIMEOUT=soon\n" ++
      "DEDUPS3_CONSOLE_LOGOUT_TIMEOUT_MS=750\n= 1\nDEDUPS3_CONSOLE_BASE_PATH=/x") = sampleFile := by
    decide +kernel
  have hsame : ∀ name ∈ names, Variables.told (sampleEnv ++ [("LANG", "C")]) sampleFile name =
      Variables.told sampleEnv sampleFile name := by decide
  obtain ⟨-, hmade, hothers⟩ := environment_configures sampleEnv sampleFile
  refine ⟨hread, hsame, ?_⟩
  rw [hothers _ _ hsame, hmade]
  refine ⟨some 15, some 750, ?_, ?_, rfl⟩
  · exact .some ((number?_eq_some_iff "+015" 15).mp (by decide))
  · exact .some ((number?_eq_some_iff "750" 750).mp (by decide))

end Config
end StorageConsole
