import OpenvpnConnect.Native.Views
import Mathlib.Data.List.Infix

-- The check of TLS material, by the Rust backend and by the adapter that calls it.
namespace OpenvpnConnect.Tls.Loading

open Native

-- A result of Rust, or a panic.
abbrev Parsed (α : Type) := ExceptT String Option α

-- What other crates read out of PEM texts and DER documents.
structure Readers where
  certs : List UInt8 → Parsed (List (List UInt8))
  crls : List UInt8 → Parsed (List (List UInt8))
  privateKey : List UInt8 → Parsed (Option (List UInt8))
  secretDocument : String → Parsed (List UInt8)
  encryptedKey : List UInt8 → Parsed (List UInt8)
  decrypt : List UInt8 → List UInt8 → Parsed (List UInt8)
  utf8Error : List UInt8 → String

def viewBytes (value : StringView) : Parsed (List UInt8) :=
  if value.len = 0 then pure []
  else
    match value.data with
    | none => throw "string view data pointer is null"
    | some bytes => pure (bytes.take value.len)

def parseCertificates (readers : Readers) (value : List UInt8) : Parsed (List (List UInt8)) :=
  if value.isEmpty then pure [] else readers.certs value

def parseCrls (readers : Readers) (value : List UInt8) : Parsed (List (List UInt8)) :=
  if value.isEmpty then pure [] else readers.crls value

-- `value.windows(..).any(..)`
def holds (value : List UInt8) (marker : String) : Bool := decide (marker.toByteArray.data.toList <:+: value)

def parsePrivateKey (readers : Readers) (value password : List UInt8) : Parsed (List UInt8) := do
  if value.isEmpty then
    throw "private key is empty"
  if holds value "BEGIN ENCRYPTED PRIVATE KEY" then
    let pem ← match String.fromUTF8? ⟨value.toArray⟩ with
      | some pem => pure pem
      | none => throw (readers.utf8Error value)
    let document ← readers.secretDocument pem
    let encrypted ← readers.encryptedKey document
    tryCatch (readers.decrypt encrypted password) (fun error => throw ("failed to decrypt private key: " ++ error))
  else
    match ← readers.privateKey value with
    | some key => pure key
    | none => throw "no supported private key found"

def PEM_CERT : UInt32 := 1
def PEM_CERT_LIST : UInt32 := 2
def PEM_PRIVATE_KEY : UInt32 := 3
def PEM_CRL : UInt32 := 4
def PEM_DH : UInt32 := 5

def validatePart (readers : Readers) (kind : UInt32) (value password : List UInt8) : Parsed Unit := do
  if kind = PEM_CERT then
    if (← parseCertificates readers value).length ≠ 1 then
      throw "expected exactly one certificate"
  else if kind = PEM_CERT_LIST then
    if (← parseCertificates readers value).isEmpty then
      throw "certificate list is empty"
  else if kind = PEM_PRIVATE_KEY then
    let _ ← parsePrivateKey readers value password
  else if kind = PEM_CRL then
    if (← parseCrls readers value).isEmpty then
      throw "certificate revocation list is empty"
  else if kind = PEM_DH then
    if !holds value "BEGIN DH PARAMETERS" then
      throw "invalid DH parameters PEM"
  else
    throw "unknown PEM validation type"

-- The text is cut where the buffer ends, and ended with a NUL where there is room.
def writeError (output : List UInt8) (message : String) : List UInt8 :=
  let text := message.toByteArray.data.toList
  let length := min output.length text.length
  if length < output.length then text.take length ++ 0 :: output.drop (length + 1) else text.take length

def ffiStatusWithError (error : List UInt8) (function : Parsed Unit) : Int32 × List UInt8 :=
  match function.run with
  | some (.ok ()) => (1, error)
  | some (.error message) => (0, writeError error message)
  | none => (0, writeError error "Rust TLS callback panicked")

def validate (readers : Readers) (kind : UInt32) (value password : StringView) (error : List UInt8) :
    Int32 × List UInt8 :=
  ffiStatusWithError error do
    let value ← viewBytes value
    let password ← viewBytes password
    validatePart readers kind value password

-- The callback table; the validator may be missing from it.
structure Vtable where
  tlsValidate : Option (UInt32 → StringView → StringView → List UInt8 → Int32 × List UInt8)

-- The table that is registered, if one is.
abbrev Backend := Option Vtable

def installed (readers : Readers) : Backend := some ⟨some (validate readers)⟩

def rustBackend (backend : Backend) : Except CxxString Vtable :=
  match backend with
  | none => .error "Rust crypto backend is not registered".toByteArray
  | some callbacks => .ok callbacks

def errorText (error : List UInt8) : CxxString := ⟨(error.takeWhile (· != 0)).toArray⟩

-- The exception's text, where it throws.
def validatePem (backend : Backend) (kind : UInt32) (value password : CxxString) (description : String) :
    Except CxxString Unit :=
  match rustBackend backend with
  | .error thrown => .error thrown
  | .ok callbacks =>
      match callbacks.tlsValidate with
      | none => .error "Rust TLS PEM validator is unavailable".toByteArray
      | some tlsValidate =>
          match tlsValidate kind (viewOf value) (viewOf password) (List.replicate 1024 0) with
          | (code, error) =>
              if code = 0 then
                .error ("invalid ".toByteArray ++ description.toByteArray ++ ": ".toByteArray ++ errorText error)
              else .ok ()

-- There is a validator, and it accepts; the description is for the exception only.
def accepts (backend : Backend) (kind : UInt32) (value password : CxxString) : Bool :=
  match backend with
  | some ⟨some tlsValidate⟩ => (tlsValidate kind (viewOf value) (viewOf password) (List.replicate 1024 0)).1 != 0
  | _ => false

variable {backend : Backend} {kind : UInt32} {value password : CxxString}

theorem validatePem_accepted (accepted : accepts backend kind value password = true) (description : String) :
    validatePem backend kind value password description = .ok () := by
  match backend with
  | none => cases accepted
  | some ⟨none⟩ => cases accepted
  | some ⟨some tlsValidate⟩ =>
      have passed := bne_iff_ne.mp accepted
      exact if_neg passed

theorem validatePem_refused (refused : accepts backend kind value password = false) (description : String) :
    ∃ thrown, validatePem backend kind value password description = .error thrown := by
  match backend with
  | none => exact ⟨_, rfl⟩
  | some ⟨none⟩ => exact ⟨_, rfl⟩
  | some ⟨some tlsValidate⟩ =>
      have failed := bne_eq_false_iff_eq.mp refused
      exact ⟨_, if_pos failed⟩

end OpenvpnConnect.Tls.Loading
