import OutboundHttp.Builder.Operation
import OutboundHttp.Settings.Defaults

/-!
# Builders that start from defaults

Defaults are given to a builder by operations that anyone might use, the headers last.
-/
namespace OutboundHttp
namespace Builder

/-- The operations that give defaults to a builder. -/
def defaultOperations (defaults : Defaults) : List Operation := [
    .accept defaults.accept,
    .logHttpError defaults.logHttpError,
    .allowAutoRedirect defaults.allowAutoRedirect,
    .keepAlive defaults.keepAlive,
    .logResponseContent defaults.logResponseContent,
    .useSimplifiedUserAgent defaults.useSimplifiedUserAgent,
    .rateLimit defaults.rateLimitSecs,
    .suppressStatusCodes defaults.suppressedStatusCodes] ++
  defaults.headers.entries.map fun (name, value) => .setHeader name value

/-- A `GET` builder for a base url that starts from defaults. -/
def withDefaults (base : Uri) (defaults : Defaults) : Builder :=
  (ofUri base).run (defaultOperations defaults)

end Builder
end OutboundHttp
