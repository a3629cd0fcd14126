import DriverRegistration.Cluster.Access
import DriverRegistration.Node.Store
import DriverRegistration.Text.HostName

/-!
# Connecting to a cluster

Before the first request everything that a kubeconfig leads to is judged: no proxy can be used, the
credentials must authorize requests, certificates and keys must be there as announced, and what goes
into the headers of requests must be fit for them.
-/

namespace DriverRegistration.Cluster

/-- Why a cluster cannot be reached. -/
inductive ConnectFault where
  | proxyWithout (proxy : Uri) (feature : String)
  | proxyProtocol (proxy : Uri)
  | auth (fault : AuthFault)
  /-- What is called a certificate is none. -/
  | certificate
  | missingKey
  | missingCertificate
  | serverName
  | header
  deriving DecidableEq, Repr

/-- The text of a fault. -/
def ConnectFault.message : ConnectFault → String
  | proxyWithout proxy feature =>
    "configured proxy " ++ proxy.text ++ " requires the disabled feature " ++ Text.quoted feature
  | proxyProtocol proxy => "configured proxy " ++ proxy.text ++ " uses an unsupported protocol"
  | auth fault => "auth error: " ++ fault.message
  | certificate =>
    "rustls tls error: failed to add a root certificate: invalid peer certificate: BadEncoding"
  | missingKey =>
    "rustls tls error: identity PEM is missing a private key: the key must be PKCS8 or RSA/PKCS1"
  | missingCertificate => "rustls tls error: identity PEM is missing certificate"
  | serverName => "rustls tls error: invalid server name: invalid dns name"
  | header => "HttpError: failed to parse header value"

/-- How an attempt to connect fails. -/
inductive ConnectFailure where
  | refused (error : StoreError)
  /-- The program ends at once. -/
  | crash
  deriving DecidableEq, Repr

/-! ## Parts -/

/-- The refusal of a proxy. -/
def proxyFault (proxy : Uri) : ConnectFault :=
  match proxy.scheme with
  | some "http" => .proxyWithout proxy "kube/http-proxy"
  | some "socks5" => .proxyWithout proxy "kube/socks5"
  | _ => .proxyProtocol proxy

/-- Whether a text is fit for a header. -/
def fitsHeader (s : String) : Bool :=
  s.toList.all fun c => c = '\t' || (0x20 ≤ c.toNat && c.toNat ≠ 0x7F)

/-- The length that octets begin with, and the octets after it. -/
def lengthOf? : List UInt8 → Option (Nat × List UInt8)
  | [] => none
  | o :: r =>
    if o.toNat < 0x80 then some (o.toNat, r)
    else
      let n := o.toNat - 0x80
      some ((r.take n).foldl (fun n o => n * 256 + o.toNat) 0, r.drop n)

/-- Whether octets are a single sequence of values, as every certificate is. -/
def isSequence : List UInt8 → Bool
  | 0x30 :: r => (lengthOf? r).any fun (n, content) => n ≠ 0 && content.length = n
  | _ => false

/-- The labels of private keys. -/
def keyLabels : List String := ["PRIVATE KEY", "RSA PRIVATE KEY", "EC PRIVATE KEY"]

/-- The fault of the certificate and the key of a user, if both are there. -/
def identityFault? (c : Credentials) (files : FileReader) : Option ConnectFault :=
  match c.certificate.load? files, c.key.load? files with
  | some certificate, some key =>
    match Text.sections (key ++ 0x0A :: certificate) with
    | .error _ => none
    | .ok sections =>
      if !sections.any (keyLabels.contains ·.label) then some .missingKey
      else if !sections.any (·.label = Endpoint.certificateLabel) then some .missingCertificate
      else none
  | _, _ => none

/-- The fault of the certificates and names that a connection is secured with. -/
def securityFault? (a : Access) (files : FileReader) : Option ConnectFault :=
  if (a.authorities.getD []).any (!isSequence ·) then some .certificate
  else
    (identityFault? a.credentials files).or
      ((a.serverName.filter (!Text.namesHost ·)).map fun _ => .serverName)

/-- The texts that stand in the headers of requests besides the authorization. -/
def headerTexts (c : Credentials) : List String := c.actsFor.toList ++ c.actsForGroups

/-! ## Connecting -/

namespace Access

/-- Judge an access, at a time in seconds of the epoch. -/
def judge (a : Access) (files : FileReader) (now : Int) : Except ConnectFailure Unit :=
  let refuse (f : ConnectFault) : Except ConnectFailure Unit := .error (.refused (.api f.message))
  match a.proxy with
  | some proxy => refuse (proxyFault proxy)
  | none =>
    match a.credentials.authorization files now with
    | .error f => refuse (.auth f)
    | .ok authorization =>
      if !authorization.tokens.all fitsHeader then .error .crash
      else
        match securityFault? a files with
        | some f => refuse f
        | none => if (headerTexts a.credentials).all fitsHeader then .ok () else refuse .header

end Access

namespace Kubeconfig

/-- Connect to the cluster that the kubeconfig of a path leads to, at a time in seconds of the
epoch. -/
def connect (path : String) (environment : String → Option String) (files : FileReader)
    (now : Int) : Except ConnectFailure Access := do
  let refuse (doing reason : String) : ConnectFailure :=
    .refused (.api (doing ++ " kubeconfig " ++ path ++ ": " ++ reason))
  let k ← (read path files).mapError fun f => refuse "read" f.message
  let (endpoint, credentials) ← k.current.mapError fun f => refuse "load" f.message
  let a ← (endpoint.access credentials environment files).mapError fun f => refuse "load" f.message
  a.judge files now
  return a

end Kubeconfig

end DriverRegistration.Cluster
