import NinjaOne.Answers
import NinjaOne.ApiRequest
import NinjaOne.AtMostOnce
import NinjaOne.Board
import NinjaOne.Callbacks.Alone
import NinjaOne.Callbacks.Awaited
import NinjaOne.Callbacks.Posted
import NinjaOne.Callbacks.Retention
import NinjaOne.Config
import NinjaOne.Cursor
import NinjaOne.CustomFields
import NinjaOne.Endpoint
import NinjaOne.ErrorEnvelope
import NinjaOne.Flight
import NinjaOne.Gateway
import NinjaOne.Isolation
import NinjaOne.JsonReader
import NinjaOne.Lib.Pool
import NinjaOne.NameFilter
import NinjaOne.Paging
import NinjaOne.Pauses
import NinjaOne.RequestReader
import NinjaOne.Scripts
import NinjaOne.Server
import NinjaOne.Server.Calls
import NinjaOne.Server.Deployments
import NinjaOne.Server.Published
import NinjaOne.Server.RoundTrip
import NinjaOne.Server.Tokens
import NinjaOne.Shapes
import NinjaOne.Truncation
