import TempestaFw.SockClnt.Registry

/-!
# The client connection hooks of `sock_clnt.c`

`ss_client_hooks` hands new client connections to `tfw_client_connect_complete` and dropped or
closed ones to `tfw_client_connection_close`.  Both only call into other files, so the model
takes what those calls report as arguments and returns the hook's value with the calls it made,
in order.  Neither keeps state of this file between calls.
-/

set_option autoImplicit false

namespace TempestaFw.SockClnt

/-- Linux `EPERM` and `ENOMEM`, returned negated. -/
def EPERM : Int := 1

def ENOMEM : Int := 12

/-- The calls the hooks make into other files. -/
inductive HookCall where
  | classifyConnEstab
  | connectionNew
  | createClient
  | ssClose
  | classifyConnClose
  | connectionClose
  deriving DecidableEq, Repr

/-- `tfw_client_connect_complete(sk)`: `estab` is what `tfw_classify_conn_estab` returned,
`block` the value of `TFW_BLOCK`, `connNew` whether `tfw_connection_new` returned a connection
and `clientNew` whether `tfw_create_client` returned a client. -/
def tfwClientConnectComplete (block estab : Int) (connNew clientNew : Bool) :
    Int × List HookCall :=
  if estab = block then (-EPERM, [.classifyConnEstab])
  else if !connNew then (-ENOMEM, [.classifyConnEstab, .connectionNew, .ssClose])
  else if !clientNew then
    (-EINVAL, [.classifyConnEstab, .connectionNew, .createClient, .ssClose])
  else (0, [.classifyConnEstab, .connectionNew, .createClient])

/-- `tfw_client_connection_close(sk)`, given what `tfw_classify_conn_close` returned. -/
def tfwClientConnectionClose (block classified : Int) : Int × List HookCall :=
  if classified = block then (-EPERM, [.classifyConnClose])
  else (0, [.classifyConnClose, .connectionClose])

end TempestaFw.SockClnt
